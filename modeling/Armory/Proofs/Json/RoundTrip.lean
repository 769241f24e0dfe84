import Mathlib.Tactic.SplitIfs
import Armory.Json.Reader
import Armory.Json.Writer

/-! Reading what was written. A value that a writer can spell out, with texts for its strings and whole numbers,
is written in one way that leaves nothing open. Main statement: a reader gets such a value back from its text
(`Plain.parse?_compact`). -/
namespace Armory.Json

open Armory.Text (isDigit digitsValue)

/-! ## Strings -/

/-- What a character is in a token: itself, or one unit of an escape if it has no short one. -/
def pieceOf (c : Char) : Piece :=
  if c.toNat < 32 ∧ c.toNat ∉ [8, 9, 10, 12, 13] then .unit c.toNat else .char c

theorem hexUnit?_hexDigit : ∀ n < 32,
    hexUnit? '0' '0' (hexDigit (n / 16)) (hexDigit (n % 16)) = some n := by
  decide

/-- The control characters that have a short escape. -/
theorem shortEscape?_of_toNat {c e : Char} {n : Nat} (h : c.toNat = n)
    (he : (shortEscape? e).map (·.toNat) = some n) : shortEscape? e = some c := by
  obtain ⟨d, hd, same⟩ := Option.map_eq_some_iff.mp he
  rw [hd, Char.toNat_inj.mp (same.trans h.symm)]

/-- A character is read back from its place in a token. -/
theorem readPieces_escapeChar (c : Char) (s : List Char) :
    readPieces (escapeChar c ++ s) = (readPieces s).map fun r => (pieceOf c :: r.1, r.2) := by
  have short : ∀ e, e ≠ 'u' → shortEscape? e = some c → pieceOf c = .char c →
      readPieces ('\\' :: e :: s) = (readPieces s).map fun r => (pieceOf c :: r.1, r.2) := by
    intro e hu he hp
    rw [readPieces.eq_4 e s fun _ _ _ _ _ h _ => hu h, he, hp]
    cases readPieces s <;> rfl
  unfold escapeChar
  split
  · subst c
    exact short '"' (by decide) rfl rfl
  split
  · subst c
    exact short '\\' (by decide) rfl rfl
  split
  · rename_i control
    -- the control characters that have a short escape, and then the others
    have named : ∀ (e : Char) {n : Nat}, c.toNat = n → n ∈ [8, 9, 10, 12, 13] → e ≠ 'u' →
        (shortEscape? e).map (·.toNat) = some n →
        readPieces ('\\' :: e :: s) = (readPieces s).map fun r => (pieceOf c :: r.1, r.2) :=
      fun e _ h among hu he => short e hu (shortEscape?_of_toNat h he)
        (if_neg fun hc => hc.2 (h ▸ among))
    split_ifs with h₈ h₉ h₁₀ h₁₂ h₁₃
    · exact named 'b' h₈ (by decide) (by decide) rfl
    · exact named 't' h₉ (by decide) (by decide) rfl
    · exact named 'n' h₁₀ (by decide) (by decide) rfl
    · exact named 'f' h₁₂ (by decide) (by decide) rfl
    · exact named 'r' h₁₃ (by decide) (by decide) rfl
    · have hp : pieceOf c = .unit c.toNat := if_pos ⟨control, by simp [h₈, h₉, h₁₀, h₁₂, h₁₃]⟩
      simp only [List.cons_append, List.nil_append]
      rw [readPieces.eq_3, hexUnit?_hexDigit _ control, hp]
      cases readPieces s <;> rfl
  · rename_i quote backslash control
    have hp : pieceOf c = .char c := if_neg fun h => control h.1
    rw [List.singleton_append, readPieces.eq_5 c s quote (fun _ _ _ _ _ h _ => backslash h)
      (fun _ _ h _ => backslash h), if_neg control, hp]
    cases readPieces s <;> rfl

theorem readPieces_quoted (s rest : List Char) :
    readPieces (s.flatMap escapeChar ++ '"' :: rest) = some (s.map pieceOf, rest) := by
  induction s with
  | nil => rfl
  | cons c s ih => rw [List.flatMap_cons, List.append_assoc, readPieces_escapeChar, ih]; rfl

/-- A unit that an escape was written for is a character of its own. -/
theorem spell_pieceOf (c : Char) (ps : List Piece) :
    spell (pieceOf c :: ps) = (spell ps).map (c :: ·) := by
  unfold pieceOf
  split
  · rename_i h
    have high : isHighHalf c.toNat = false := by simp [isHighHalf]; omega
    have low : isLowHalf c.toNat = false := by simp [isLowHalf]; omega
    cases ps with
    | nil => simp [spell, high, low]
    | cons p ps => cases p <;> simp [spell, high, low]
  · rw [spell]

theorem spell_pieces (s : List Char) : spell (s.map pieceOf) = some s := by
  induction s with
  | nil => rfl
  | cons c s ih => rw [List.map_cons, spell_pieceOf, ih]; rfl

/-- **A text is read back** from the token that was written for it. -/
theorem readText_quoted (t : String) (rest : List Char) :
    readText (t.toList.flatMap escapeChar ++ '"' :: rest) = some (some t, rest) := by
  simp [readText, readPieces_quoted, spell_pieces]

/-! ## Numbers -/

/-- What may follow a value in a text without white space. -/
def Ended (rest : List Char) : Prop := ∀ c ∈ rest.head?, c = ',' ∨ c = ']' ∨ c = '\x7d'

theorem Ended.not_digit {rest : List Char} (h : Ended rest) : rest.takeWhile isDigit = [] := by
  cases rest with
  | nil => rfl
  | cons c rest => rcases h c rfl with rfl | rfl | rfl <;> rfl

theorem Ended.readFraction {rest : List Char} (h : Ended rest) :
    readFraction rest = some ([], rest) := by
  cases rest with
  | nil => rfl
  | cons c rest => rcases h c rfl with rfl | rfl | rfl <;> rfl

theorem Ended.readExponent {rest : List Char} (h : Ended rest) :
    readExponent rest = some (none, rest) := by
  cases rest with
  | nil => rfl
  | cons c rest => rcases h c rfl with rfl | rfl | rfl <;> rfl

theorem isDigit_of_mem_writeNat {n : Nat} {c : Char} (h : c ∈ writeNat n) : isDigit c = true := by
  simpa [isDigit, Char.isDigit, Char.le_def] using Nat.isDigit_of_mem_toDigits (by decide) (by decide) h

theorem exists_writeNat_eq_cons (n : Nat) : ∃ d ds, writeNat n = d :: ds ∧ isDigit d = true := by
  obtain ⟨d, ds, h⟩ := List.exists_cons_of_ne_nil (Nat.toDigits_ne_nil (n := n) (b := 10))
  exact ⟨d, ds, h, isDigit_of_mem_writeNat (n := n) (by rw [writeNat, h]; exact List.mem_cons_self)⟩

theorem digitsValue_writeNat (n : Nat) : digitsValue (writeNat n) = n := by
  have value := Nat.ofDigitChars_toDigits (b := 10) (n := n) (by decide) (by decide)
  simpa [digitsValue, writeNat, Nat.ofDigitChars, Nat.mul_comm] using value

/-- A number of several digits does not begin with a zero. -/
theorem writeNat_ne_zero_cons (n : Nat) (c : Char) (cs : List Char) : writeNat n ≠ '0' :: c :: cs := by
  induction n using Nat.strongRecOn generalizing c cs with
  | ind n ih =>
    rcases Nat.lt_or_ge n 10 with small | large
    · simp [writeNat, Nat.toDigits_of_lt_base small]
    · rw [writeNat, Nat.toDigits_of_base_le (by decide) large]
      intro h
      -- all digits but the last are those of a smaller number, which is not zero
      cases hd : writeNat (n / 10) with
      | nil => exact Nat.toDigits_ne_nil hd
      | cons d ds =>
        rw [writeNat] at hd
        rw [hd, List.cons_append] at h
        obtain ⟨rfl, -⟩ := List.cons.inj h
        cases ds with
        | cons d' ds => exact ih _ (Nat.div_lt_self (by omega) (by decide)) d' ds hd
        | nil =>
          have value := digitsValue_writeNat (n / 10)
          rw [writeNat, hd] at value
          have zero : n / 10 = 0 := value.symm
          omega

theorem readUnsigned_writeNat (negative : Bool) {n : Nat} {rest : List Char} (ended : Ended rest)
    (sign : negative = true → n ≠ 0) :
    readUnsigned negative (writeNat n ++ rest) =
      some (.whole (if negative then -(n : Int) else n), rest) := by
  have taken : (writeNat n ++ rest).takeWhile isDigit = writeNat n := by
    rw [List.takeWhile_append_of_pos fun c => isDigit_of_mem_writeNat, ended.not_digit, List.append_nil]
  have left : (writeNat n ++ rest).dropWhile isDigit = rest := by
    have split := List.takeWhile_append_dropWhile (p := isDigit) (l := writeNat n ++ rest)
    rw [taken] at split
    exact List.append_cancel_left split
  unfold readUnsigned
  rw [taken, left]
  split
  · rename_i h
    exact absurd h Nat.toDigits_ne_nil
  · rename_i h
    exact absurd h (writeNat_ne_zero_cons _ _ _)
  · rw [ended.readFraction]
    simp only [bind, Option.bind, ended.readExponent, List.append_nil, digitsValue_writeNat]
    cases negative with
    | false => rfl
    | true =>
      have nonzero : ¬ -(n : Int) = 0 := by
        have := sign rfl
        omega
      simp [nonzero]

/-- **A whole number is read back** where nothing follows that could belong to it. -/
theorem readNumber_writeInt (n : Int) {rest : List Char} (ended : Ended rest) :
    readNumber (writeInt n ++ rest) = some (.whole n, rest) := by
  cases n with
  | negSucc n =>
    rw [writeInt, List.cons_append, readNumber, readUnsigned_writeNat true ended (by simp)]
    rfl
  | ofNat n =>
    have unsigned := readUnsigned_writeNat false (n := n) ended nofun
    obtain ⟨d, ds, hd, digit⟩ := exists_writeNat_eq_cons n
    rw [hd] at unsigned
    rw [writeInt, hd]
    unfold readNumber
    split
    · rename_i h
      obtain ⟨rfl, -⟩ := List.cons.inj h
      cases digit
    · exact unsigned

/-! ## Values -/

/-- A value without anything that a reader has to decide about: its strings and keys are texts, and its numbers
are whole. -/
inductive Plain : Json → Prop
  | null : Plain .null
  | bool (b : Bool) : Plain (.bool b)
  | int (n : Int) : Plain (.int n)
  | text (t : String) : Plain (.text t)
  | arr {items : List Json} (values : ∀ v ∈ items, Plain v) : Plain (.arr items)
  | record {fields : List (String × Json)} (values : ∀ f ∈ fields, Plain f.2) : Plain (.record fields)

/-- A value is read back from the beginning of a text, if the reader has one step for each character of it. -/
def ReadsBack (v : Json) : Prop :=
  ∀ (fuel : Nat) (rest : List Char), (writeCompact v).length ≤ fuel → Ended rest →
    readValue fuel (writeCompact v ++ rest) = some (v, rest)

/-- A character with which a written value can begin. -/
abbrev Begins (c : Char) : Prop := isSpace c = false ∧ c ≠ ']'

theorem skipSpace_cons {c : Char} (h : Begins c) (s : List Char) : skipSpace (c :: s) = c :: s := by
  simp [skipSpace, h.1]

/-- A character with which a written number can begin. -/
abbrev BeginsNumber (c : Char) : Prop := c = '-' ∨ isDigit c = true

theorem BeginsNumber.begins {c : Char} (h : BeginsNumber c) : Begins c := by
  rcases h with rfl | digit
  · decide
  · refine ⟨?_, fun e => by subst e; cases digit⟩
    cases hs : isSpace c with
    | false => rfl
    | true =>
      simp only [isSpace, Bool.or_eq_true, beq_iff_eq] at hs
      rcases hs with ((rfl | rfl) | rfl) | rfl <;> cases digit

theorem exists_writeInt_eq_cons (n : Int) : ∃ c s, writeInt n = c :: s ∧ BeginsNumber c := by
  cases n with
  | negSucc n => exact ⟨_, _, rfl, .inl rfl⟩
  | ofNat n =>
    obtain ⟨d, ds, h, digit⟩ := exists_writeNat_eq_cons n
    exact ⟨d, ds, h, .inr digit⟩

/-- What begins like a number is read as one. -/
theorem readValue_of_beginsNumber {c : Char} (h : BeginsNumber c) (fuel : Nat) (s : List Char) :
    readValue (fuel + 1) (c :: s) = (readNumber (c :: s)).map fun r => (.num r.1, r.2) := by
  have other : ∀ {d : Char} {t : List Char}, d ≠ '-' → isDigit d = false → c :: s ≠ d :: t := by
    intro d t minus digit e
    obtain ⟨rfl, -⟩ := List.cons.inj e
    rcases h with rfl | h
    · exact minus rfl
    · rw [digit] at h
      cases h
  rw [readValue.eq_def]
  simp only [skipSpace_cons h.begins]
  split
  case h_7 => rfl
  all_goals exact absurd ‹_› (other (by decide) (by decide))

theorem exists_writeCompact_eq_cons {v : Json} (h : Plain v) :
    ∃ c s, writeCompact v = c :: s ∧ Begins c := by
  cases h with
  | null => exact ⟨_, _, rfl, by decide⟩
  | bool b => cases b <;> exact ⟨_, _, rfl, by decide⟩
  | text t => exact ⟨_, _, rfl, by decide⟩
  | arr _ => exact ⟨_, _, rfl, by decide⟩
  | record _ => exact ⟨_, _, rfl, by decide⟩
  | int n =>
    obtain ⟨c, s, h, number⟩ := exists_writeInt_eq_cons n
    exact ⟨c, s, h, number.begins⟩

theorem exists_writeItems_eq_cons {v : Json} (h : Plain v) (items : List Json) :
    ∃ c s, writeItems (v :: items) = c :: s ∧ Begins c := by
  obtain ⟨c, s, hs, begins⟩ := exists_writeCompact_eq_cons h
  cases items with
  | nil => exact ⟨c, s ++ [']'], by rw [writeItems, hs]; rfl, begins⟩
  | cons w items => exact ⟨c, s ++ ',' :: writeItems (w :: items), by rw [writeItems, hs]; rfl; nofun, begins⟩

theorem ended_cons {c : Char} (h : c = ',' ∨ c = ']' ∨ c = '\x7d') (rest : List Char) :
    Ended (c :: rest) := by
  intro d hd
  cases hd
  exact h

/-- The entries of an array are read back, each by itself. -/
theorem readItems_writeItems {items : List Json} (back : ∀ v ∈ items, ReadsBack v)
    (nonempty : items ≠ []) (fuel : Nat) (rest : List Char)
    (enough : (writeItems items).length ≤ fuel) :
    readItems fuel (writeItems items ++ rest) = some (items, rest) := by
  induction items generalizing fuel with
  | nil => exact absurd rfl nonempty
  | cons v items ih =>
    have hv := back v List.mem_cons_self
    cases items with
    | nil =>
      simp only [writeItems, List.length_append, List.length_singleton] at enough
      obtain ⟨fuel, rfl⟩ : ∃ k, fuel = k + 1 := ⟨fuel - 1, by omega⟩
      simp only [writeItems, List.append_assoc, List.singleton_append]
      rw [readItems, hv fuel _ (by omega) (ended_cons (.inr (.inl rfl)) rest)]
      rfl
    | cons w items =>
      rw [writeItems.eq_3 v (w :: items) nofun] at enough ⊢
      simp only [List.length_append, List.length_cons] at enough
      obtain ⟨fuel, rfl⟩ : ∃ k, fuel = k + 1 := ⟨fuel - 1, by omega⟩
      rw [List.append_assoc, List.cons_append, readItems,
        hv fuel _ (by omega) (ended_cons (.inl rfl) _)]
      have later := ih (fun u hu => back u (List.mem_cons_of_mem v hu)) nofun fuel (by omega)
      simp only [bind, Option.bind, skipSpace_cons (show Begins ',' by decide), later]
      rfl

/-- The fields of an object with the keys that were given. -/
def named (fields : List (String × Json)) : List (Text × Json) := fields.map fun f => (some f.1, f.2)

theorem exists_writeFields_eq_cons (f : String × Json) (fields : List (String × Json)) :
    ∃ s, writeFields (named (f :: fields)) = '"' :: s := by
  cases fields with
  | nil => exact ⟨_, rfl⟩
  | cons g fields => exact ⟨_, rfl⟩

/-- One field is read back, and then what follows it: the next field, or the end. -/
theorem readFields_cons (k : String) {v : Json} (back : ReadsBack v) {fuel : Nat}
    (enough : (writeCompact v).length ≤ fuel) {c : Char} (next : c = ',' ∨ c = '\x7d')
    (rest : List Char) :
    readFields (fuel + 1) (writeText (some k) ++ ':' :: (writeCompact v ++ c :: rest)) =
      if c = ',' then (readFields fuel rest).map fun r => ((some k, v) :: r.1, r.2)
      else some ([(some k, v)], rest) := by
  have key := readText_quoted k (':' :: (writeCompact v ++ c :: rest))
  have value := back fuel (c :: rest) enough (ended_cons (next.imp_right .inr) rest)
  rw [readFields, writeText, quoted]
  simp only [Option.getD_some, List.cons_append, List.append_assoc, List.nil_append,
    skipSpace_cons (show Begins '"' by decide), key, bind, Option.bind,
    skipSpace_cons (show Begins ':' by decide), value]
  rcases next with rfl | rfl
  · simp only [skipSpace_cons (show Begins ',' by decide), if_true]
    cases readFields fuel rest <;> rfl
  · rfl

/-- The fields of an object are read back, each by itself. -/
theorem readFields_writeFields {fields : List (String × Json)} (back : ∀ f ∈ fields, ReadsBack f.2)
    (nonempty : fields ≠ []) (fuel : Nat) (rest : List Char)
    (enough : (writeFields (named fields)).length ≤ fuel) :
    readFields fuel (writeFields (named fields) ++ rest) = some (named fields, rest) := by
  induction fields generalizing fuel with
  | nil => exact absurd rfl nonempty
  | cons f fields ih =>
    obtain ⟨k, v⟩ := f
    have hv : ReadsBack v := back (k, v) List.mem_cons_self
    cases fields with
    | nil =>
      simp only [named, List.map_cons, List.map_nil, writeFields, List.length_append,
        List.length_cons, List.length_nil] at enough ⊢
      obtain ⟨fuel, rfl⟩ : ∃ n, fuel = n + 1 := ⟨fuel - 1, by omega⟩
      simp only [List.append_assoc, List.cons_append, List.nil_append]
      rw [readFields_cons k hv (by omega) (.inr rfl)]
      rfl
    | cons g fields =>
      have next : named ((k, v) :: g :: fields) = (some k, v) :: named (g :: fields) := rfl
      have written : writeFields ((some k, v) :: named (g :: fields)) =
          writeText (some k) ++ ':' :: writeCompact v ++ ',' :: writeFields (named (g :: fields)) := by
        rw [named, List.map_cons, writeFields]
        nofun
      rw [next, written] at enough ⊢
      simp only [List.length_append, List.length_cons] at enough
      obtain ⟨fuel, rfl⟩ : ∃ n, fuel = n + 1 := ⟨fuel - 1, by omega⟩
      have later := ih (fun u hu => back u (List.mem_cons_of_mem _ hu)) nofun fuel (by omega)
      simp only [List.append_assoc, List.cons_append]
      rw [readFields_cons k hv (by omega) (.inl rfl), if_pos rfl, later]
      rfl

/-- **Every plain value is read back** from the beginning of a text. -/
theorem Plain.readsBack {v : Json} (h : Plain v) : ReadsBack v := by
  induction h with
  | null =>
    rintro (_ | fuel) rest enough ended
    · cases enough
    · rfl
  | bool b =>
    rintro (_ | fuel) rest enough ended
    · cases b <;> cases enough
    · cases b <;> rfl
  | int n =>
    intro fuel rest enough ended
    obtain ⟨c, s, hs, number⟩ := exists_writeInt_eq_cons n
    have value := readNumber_writeInt n ended
    have written : writeCompact (.int n) = c :: s := hs
    rw [hs] at value
    rw [written] at enough ⊢
    obtain ⟨fuel, rfl⟩ : ∃ k, fuel = k + 1 := ⟨fuel - 1, by simp at enough; omega⟩
    rw [List.cons_append, readValue_of_beginsNumber number, ← List.cons_append, value]
    rfl
  | text t =>
    rintro (_ | fuel) rest enough ended
    · cases enough
    have value := readText_quoted t rest
    have written : writeCompact (.text t) ++ rest =
        '"' :: (t.toList.flatMap escapeChar ++ '"' :: rest) := by
      simp [writeCompact, Json.text, writeText, quoted]
    rw [written, readValue, skipSpace_cons (by decide)]
    simp only [value]
    rfl
  | @arr items values ih =>
    rintro (_ | fuel) rest enough ended
    · cases enough
    rw [writeCompact, List.length_cons] at enough
    rw [writeCompact, List.cons_append, readValue, skipSpace_cons (by decide)]
    cases items with
    | nil => rfl
    | cons v items =>
      have inside := readItems_writeItems ih nofun fuel rest (by omega)
      obtain ⟨c, s, hs, begins⟩ := exists_writeItems_eq_cons (values v List.mem_cons_self) items
      rw [hs, List.cons_append] at inside ⊢
      simp only [skipSpace_cons begins]
      split
      · rename_i h
        exact absurd (List.cons.inj h).1 begins.2
      · rw [inside]
        rfl
  | @record fields values ih =>
    rintro (_ | fuel) rest enough ended
    · cases enough
    have written : writeCompact (Json.record fields) = '\x7b' :: writeFields (named fields) := by
      rw [Json.record, writeCompact, named]
    rw [written, List.length_cons] at enough
    rw [written, List.cons_append, readValue, skipSpace_cons (by decide)]
    cases fields with
    | nil => rfl
    | cons f fields =>
      have inside := readFields_writeFields ih nofun fuel rest (by omega)
      obtain ⟨s, hs⟩ := exists_writeFields_eq_cons f fields
      rw [hs, List.cons_append] at inside ⊢
      simp only [skipSpace_cons (show Begins '"' by decide)]
      split
      · rename_i h
        exact absurd (List.cons.inj h).1 (by decide)
      · rw [inside]
        rfl

/-- **A plain value is read back from its text.** -/
theorem Plain.parse?_compact {v : Json} (h : Plain v) : parse? v.compact = some v := by
  have back := h.readsBack (2 * (writeCompact v).length + 2) [] (by omega) (by nofun)
  rw [List.append_nil] at back
  rw [parse?, compact, String.toList_ofList, parseChars?, back]
  rfl

end Armory.Json
