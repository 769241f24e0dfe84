import Mathlib.Data.List.Basic
import Mathlib.Tactic.ByContra
import Armory.Proofs.Json.RoundTrip
import Armory.Time.Instant

/-! Timestamps: a date, a time of that day, and how far the clock that shows them is from the one at Greenwich.
Each part is read back from its digits, with whatever comes after them. Main statement: a timestamp names the
instant that its clock shows less the offset of that clock (`Timestamp.parse?_text`). -/
namespace Armory.Time

open Text (isDigit digitsValue)

/-! ## Digits -/

theorem isBlank_of_isDigit {c : Char} (h : isDigit c = true) : Text.isBlank c = false := by
  have low : 48 ≤ c.toNat ∧ c.toNat ≤ 57 := by
    simpa [isDigit, Char.le_def, UInt32.le_iff_toNat_le] using h
  simp only [Text.isBlank, Bool.or_eq_false_iff, Bool.and_eq_false_iff, decide_eq_false_iff_not, beq_eq_false_iff_ne]
  omega

theorem digitsValue_zeros_append (k : Nat) (ds : List Char) :
    digitsValue (List.replicate k '0' ++ ds) = digitsValue ds := by
  induction k with
  | zero => rfl
  | succ k ih => exact ih

theorem digitsValue_append_zeros (ds : List Char) (k : Nat) :
    digitsValue (ds ++ List.replicate k '0') = digitsValue ds * Nat.pow 10 k := by
  induction k with
  | zero => simp
  | succ k ih =>
    rw [List.replicate_succ', ← List.append_assoc, digitsValue, List.foldl_append, ← digitsValue, ih]
    exact Nat.mul_assoc _ _ _

/-- What is read as long as there are digits. -/
theorem takeWhile_isDigit {ds rest : List Char} (digits : ∀ c ∈ ds, isDigit c = true)
    (stop : ∀ c ∈ rest.head?, isDigit c = false) : (ds ++ rest).takeWhile isDigit = ds := by
  have ends : rest.takeWhile isDigit = [] := by
    cases rest with
    | nil => rfl
    | cons c rest => simp [stop c rfl]
  rw [List.takeWhile_append_of_pos digits, ends, List.append_nil]

namespace Instant

variable {w n : Nat} {rest : List Char}

theorem isDigit_of_mem_padded {c : Char} (h : c ∈ padded w n) : isDigit c = true := by
  rcases List.mem_append.mp h with zero | digit
  · rw [List.eq_of_mem_replicate zero]
    decide
  · exact Json.isDigit_of_mem_writeNat digit

theorem length_padded (positive : 0 < w) (fits : n < Nat.pow 10 w) : (padded w n).length = w := by
  have short := (Nat.length_toDigits_le_iff (by decide) positive).mpr fits
  simp only [padded, List.length_append, List.length_replicate]
  omega

theorem digitsValue_padded : digitsValue (padded w n) = n :=
  (digitsValue_zeros_append _ _).trans (Json.digitsValue_writeNat n)

/-- A text that begins with digits is not trimmed. -/
theorem trimStart_padded (positive : 0 < w) (fits : n < Nat.pow 10 w) :
    Text.trimStart (padded w n ++ rest) = padded w n ++ rest := by
  have length := length_padded positive fits
  cases digits : padded w n with
  | nil => exact absurd (digits ▸ length) (by simp; omega)
  | cons d ds =>
    have digit : isDigit d = true := isDigit_of_mem_padded (digits ▸ List.mem_cons_self)
    simp [Text.trimStart, isBlank_of_isDigit digit]

/-- A number of given width is read back. -/
theorem readDigits_padded (positive : 0 < w) (fits : n < Nat.pow 10 w) :
    readDigits w (padded w n ++ rest) = some (n, rest) := by
  have length := length_padded positive fits
  have taken : ((padded w n ++ rest).take w).takeWhile isDigit = padded w n := by
    have whole : (padded w n ++ []).takeWhile isDigit = padded w n :=
      takeWhile_isDigit (fun c => isDigit_of_mem_padded) nofun
    rw [List.take_left' length]
    simpa using whole
  have some_digit : (padded w n).isEmpty = false := by
    rw [List.isEmpty_eq_false_iff, ← List.length_pos_iff]
    omega
  simp only [readDigits, trimStart_padded positive fits, taken, some_digit, digitsValue_padded, List.drop_left]
  rfl

/-- So is a year of four digits. -/
theorem readYear_padded (fits : n < Nat.pow 10 4) : readYear (padded 4 n ++ rest) = some ((n : Int), rest) := by
  have read : readDigits 4 (padded 4 n ++ rest) = some (n, rest) := readDigits_padded (by decide) fits
  rw [readYear, trimStart_padded (by decide) fits]
  cases digits : padded 4 n with
  | nil => exact absurd (digits ▸ length_padded (by decide) fits) (by simp)
  | cons d ds =>
    have digit : isDigit d = true := isDigit_of_mem_padded (digits ▸ List.mem_cons_self)
    rw [digits] at read
    split
    · -- a digit is no sign
      rename_i sign
      cases sign
      exact absurd digit (by decide)
    · rename_i sign
      cases sign
      exact absurd digit (by decide)
    · rw [read]
      rfl

theorem skipMark_self {mark : Char} (visible : Text.isBlank mark = false) :
    skipMark mark (mark :: rest) = some rest := by
  simp [skipMark, Text.trimStart, visible]

/-! ## Fractions of a second -/

/-- Digits after a decimal point as they are written, the point being left out before none. -/
def fractionText (ds : List Char) : List Char := if ds.isEmpty then [] else '.' :: ds

/-- The thousand millionths that digits after a decimal point spell: the first nine digits, missing ones being
zeros. -/
def billionths (ds : List Char) : Nat := digitsValue ((ds ++ List.replicate 9 '0').take 9)

theorem readNanos_fractionText {ds : List Char} (digits : ∀ c ∈ ds, isDigit c = true)
    (stop : ∀ c ∈ rest.head?, isDigit c = false ∧ c ≠ '.') :
    readNanos (fractionText ds ++ rest) = some (billionths ds, rest) := by
  cases ds with
  | nil =>
    rw [show fractionText [] ++ rest = rest from rfl, readNanos.eq_2 rest fun r h => (stop '.' (by simp [h])).2 rfl]
    rfl
  | cons d ds =>
    have taken := takeWhile_isDigit digits fun c hc => (stop c hc).1
    have filled : billionths (d :: ds) =
        digitsValue ((d :: ds).take 9) * Nat.pow 10 (9 - ((d :: ds).take 9).length) := by
      rw [billionths, List.take_append, List.take_replicate, digitsValue_append_zeros, List.length_take]
      congr 2
      omega
    rw [filled]
    simp only [fractionText, List.isEmpty_cons, Bool.false_eq_true, if_false, List.cons_append, readNanos]
    rw [← List.cons_append, taken]
    simp

end Instant

/-! ## Zones -/

/-- How far a clock is from the one at Greenwich. -/
inductive Zone where
  | greenwich
  | ahead (hours : Fin 24) (minutes : Fin 60)
  | behind (hours : Fin 24) (minutes : Fin 60)

namespace Zone

/-- The hours and minutes of an offset as they are written. -/
def digits (hours : Fin 24) (minutes : Fin 60) : List Char :=
  Instant.padded 2 hours ++ ':' :: Instant.padded 2 minutes

/-- A zone as it is written. -/
def text : Zone → List Char
  | greenwich => ['Z']
  | ahead hours minutes => '+' :: digits hours minutes
  | behind hours minutes => '-' :: digits hours minutes

/-- The seconds by which a clock is ahead. -/
def seconds : Zone → Int
  | greenwich => 0
  | ahead hours minutes => hours * 3600 + minutes * 60
  | behind hours minutes => -(hours * 3600 + minutes * 60)

theorem seconds_range (z : Zone) : -86400 < z.seconds ∧ z.seconds < 86400 := by
  cases z <;> simp only [seconds] <;> omega

/-- A number of two digits. -/
theorem exists_two_digits {n : Nat} (fits : n < 100) : ∃ a b, Instant.padded 2 n = [a, b] ∧
    isDigit a = true ∧ isDigit b = true ∧ digitsValue [a, b] = n := by
  obtain ⟨a, b, written⟩ := List.length_eq_two.mp (Instant.length_padded (w := 2) (by decide) fits)
  have digit : ∀ c ∈ [a, b], isDigit c = true := fun c hc => Instant.isDigit_of_mem_padded (written ▸ hc)
  exact ⟨a, b, written, digit a (by simp), digit b (by simp), written ▸ Instant.digitsValue_padded⟩

/-- The tens of a number of minutes. -/
theorem le_five {a b : Char} (few : digitsValue [a, b] < 60) : a ≤ '5' := by
  have value : digitsValue [a, b] = (a.toNat - 48) * 10 + (b.toNat - 48) := by simp [digitsValue]
  have small : a.toNat ≤ 53 := by omega
  simpa [Char.le_def, UInt32.le_iff_toNat_le] using small

theorem hours_digits (sign : Int) (hours : Fin 24) (minutes : Fin 60) :
    Instant.readOffset.hours sign (digits hours minutes) = some (sign * (hours * 3600 + minutes * 60), []) := by
  obtain ⟨h1, h2, hh, d1, d2, hv⟩ := exists_two_digits (n := hours) (by omega)
  obtain ⟨m1, m2, mm, e1, e2, mv⟩ := exists_two_digits (n := minutes) (by omega)
  have five : m1 ≤ '5' := le_five (by omega : digitsValue [m1, m2] < 60)
  have mark : (m1 == ':') = false := by
    rw [beq_eq_false_iff_ne]
    rintro rfl
    exact absurd e1 (by decide)
  simp [digits, hh, mm, Instant.readOffset.hours, d1, d2, e1, e2, five, mark, isBlank_of_isDigit e1, hv, mv]

/-- An offset is read back. -/
theorem readOffset_text (z : Zone) : Instant.readOffset z.text = some (z.seconds, []) := by
  have capital (s : Char) (hs : s.toUpper ≠ 'U') (ds : List Char) :
      ¬ ((s :: ds).take 3).map Char.toUpper = ['U', 'T', 'C'] := by
    simp [hs]
  cases z with
  | greenwich => rfl
  | ahead hours minutes =>
    have read := hours_digits 1 hours minutes
    simp only [text, Instant.readOffset]
    rw [if_neg (by decide), if_neg (capital '+' (by decide) _), if_pos trivial, read, Int.one_mul]
    rfl
  | behind hours minutes =>
    have read := hours_digits (-1) hours minutes
    simp only [text, Instant.readOffset]
    rw [if_neg (by decide), if_neg (capital '-' (by decide) _), if_neg (by decide), if_pos (by decide), read,
      Int.neg_one_mul]
    rfl

/-- An offset does not go on with the digits before it. -/
theorem head_text (z : Zone) : ∀ c ∈ z.text.head?, isDigit c = false ∧ c ≠ '.' := by
  cases z <;> simp only [text, List.head?_cons, Option.mem_some_iff, forall_eq'] <;> decide

theorem trimStart_text (z : Zone) : Text.trimStart z.text = z.text := by
  cases z <;> rfl

end Zone

/-! ## Timestamps -/

/-- What a clock shows: the second 60 of a minute is a leap second. -/
structure Timestamp where
  date : Date
  hour : Fin 24
  minute : Fin 60
  second : Fin 61
  /-- The digits after the decimal point. -/
  fraction : List Char
  zone : Zone
  exists_date : date.valid = true
  four_digits : 0 ≤ date.year ∧ date.year ≤ 9999
  fraction_digits : ∀ c ∈ fraction, isDigit c = true

namespace Timestamp

open Instant (padded)

/-- A timestamp as it is written. -/
def text (t : Timestamp) : String :=
  String.ofList (padded 4 t.date.year.toNat ++ '-' :: (padded 2 t.date.month ++ '-' :: (padded 2 t.date.day ++
    'T' :: (padded 2 t.hour ++ ':' :: (padded 2 t.minute ++ ':' :: (padded 2 t.second ++
    (Instant.fractionText t.fraction ++ t.zone.text)))))))

/-- The instant that a timestamp names: what the clock shows, less the offset of the clock. A leap second is the
second before it, with more than a thousand million nanoseconds. -/
def instant (t : Timestamp) : Instant where
  seconds := t.date.toDays * 86400 + t.hour * 3600 + t.minute * 60 + min (t.second : Int) 59 - t.zone.seconds
  nanos := Instant.billionths t.fraction + if (t.second : Nat) = 60 then 1000000000 else 0

theorem daysInMonth_le (year : Int) (month : Nat) : daysInMonth year month ≤ 31 := by
  unfold daysInMonth
  split_ifs <;> omega

theorem month_le (t : Timestamp) : t.date.month ≤ 12 := by
  have valid := t.exists_date
  by_contra late
  have none_left : daysInMonth t.date.year t.date.month = 0 := by
    simp only [daysInMonth, beq_iff_eq, Bool.or_eq_true, Bool.and_eq_true, decide_eq_true_eq]
    split_ifs <;> omega
  simp only [Date.valid, none_left, Bool.and_eq_true, decide_eq_true_eq] at valid
  omega

theorem day_le (t : Timestamp) : t.date.day ≤ 31 := by
  have valid := t.exists_date
  have days := daysInMonth_le t.date.year t.date.month
  simp only [Date.valid, Bool.and_eq_true, decide_eq_true_eq] at valid
  omega

/-- A part that is read hands on what it has found. -/
theorem bind_of_eq_some {α β : Type} {x : Option α} {a : α} {f : α → Option β} (h : x = some a) :
    (x >>= f) = f a := by
  rw [h]
  rfl

/-- **A timestamp names an instant, whatever its zone.** -/
theorem parse?_text (t : Timestamp) : Instant.parse? t.text = some t.instant := by
  have month := t.month_le
  have day := t.day_le
  have year := t.four_digits
  have zone := t.zone.seconds_range
  have four : t.date.year.toNat < 10000 := by omega
  have digits (n : Nat) (fits : n < 100) (rest : List Char) :
      Instant.readDigits 2 (padded 2 n ++ rest) = some (n, rest) := Instant.readDigits_padded (by decide) fits
  have dash (rest : List Char) : Instant.skipMark '-' ('-' :: rest) = some rest := Instant.skipMark_self (by decide)
  have colon (rest : List Char) : Instant.skipMark ':' (':' :: rest) = some rest := Instant.skipMark_self (by decide)
  rw [Instant.parse?, text, String.toList_ofList]
  refine (bind_of_eq_some (Instant.readYear_padded four)).trans ?_
  refine (bind_of_eq_some (dash _)).trans ?_
  refine (bind_of_eq_some (digits t.date.month (by omega) _)).trans ?_
  refine (bind_of_eq_some (dash _)).trans ?_
  refine (bind_of_eq_some (digits t.date.day (by omega) _)).trans ?_
  refine (bind_of_eq_some rfl).trans ?_
  refine (bind_of_eq_some (digits t.hour (by omega) _)).trans ?_
  refine (bind_of_eq_some (colon _)).trans ?_
  refine (bind_of_eq_some (digits t.minute (by omega) _)).trans ?_
  refine (bind_of_eq_some (colon _)).trans ?_
  refine (bind_of_eq_some (digits t.second (by omega) _)).trans ?_
  refine (bind_of_eq_some (Instant.readNanos_fractionText t.fraction_digits t.zone.head_text)).trans ?_
  refine (bind_of_eq_some ((congrArg _ t.zone.trimStart_text).trans t.zone.readOffset_text)).trans ?_
  dsimp only
  have same_year : (t.date.year.toNat : Int) = t.date.year := Int.toNat_of_nonneg year.1
  have accepted : (([] : List Char).isEmpty && t.date.valid && -262143 ≤ t.date.year && t.date.year ≤ 262142 &&
      (t.hour : Nat) < 24 && (t.minute : Nat) < 60 && (t.second : Nat) ≤ 60 && -86400 < t.zone.seconds &&
      t.zone.seconds < 86400) = true := by
    simp only [t.exists_date, List.isEmpty_nil, Bool.and_eq_true, decide_eq_true_eq, true_and]
    omega
  rw [same_year, if_pos accepted]
  simp only [instant, pure]
  by_cases leap : (t.second : Nat) = 60
  · simp only [leap, beq_self_eq_true, if_true]
    rfl
  · have small : min (t.second : Int) 59 = t.second := by omega
    simp [leap, small]

/-- Two clocks that show different times at the same instant. -/
example : Instant.parse? "2026-10-01T00:30:00.5+01:30" = Instant.parse? "2026-09-30T23:00:00.500Z" := by
  decide +kernel

end Timestamp

/-! ## Before and after -/

namespace Instant

/-- One instant is earlier than another. -/
def Before (a b : Instant) : Prop := a.seconds < b.seconds ∨ a.seconds = b.seconds ∧ a.nanos < b.nanos

variable {a b c : Instant}

theorem notAfter_iff : a.notAfter b = true ↔ ¬ b.Before a := by
  simp only [notAfter, Before, Bool.or_eq_true, Bool.and_eq_true, decide_eq_true_eq, beq_iff_eq]
  omega

theorem Before.not_before (h : a.Before b) : ¬ b.Before a := by
  simp only [Before] at *
  omega

/-- What is not earlier than something is not earlier than anything that is not later. -/
theorem not_before_trans (h₁ : ¬ b.Before a) (h₂ : ¬ c.Before b) : ¬ c.Before a := by
  simp only [Before] at *
  omega

end Instant
end Armory.Time
