import Mathlib.Data.List.Basic
import Armory.Net.IpAddress
import Armory.Text.Blank

/-!
# The characters of an address

An address is spelt in digits, points and colons only. Main statement: the text of an address holds no white space
(`IpAddress.isBlank_eq_false_of_parse?`).
-/

namespace Armory.Net.IpAddress

/-- A character that can stand in an address. -/
def IsMark (c : Char) : Prop := c = '.' ∨ c = ':' ∨ (Text.digitValue? 16 c).isSome

/-- A reader that leaves the rest of a text has taken nothing but characters that can stand in an address. -/
def Leaves (s rest : List Char) : Prop := ∃ taken, s = taken ++ rest ∧ ∀ c ∈ taken, IsMark c

variable {s s' rest : List Char} {c : Char}

theorem Leaves.refl (s : List Char) : Leaves s s := ⟨[], rfl, by simp⟩

theorem Leaves.cons (mark : IsMark c) (h : Leaves s rest) : Leaves (c :: s) rest := by
  obtain ⟨taken, rfl, marks⟩ := h
  exact ⟨c :: taken, rfl, List.forall_mem_cons.mpr ⟨mark, marks⟩⟩

theorem Leaves.trans (h : Leaves s s') (h' : Leaves s' rest) : Leaves s rest := by
  obtain ⟨taken, rfl, marks⟩ := h
  obtain ⟨taken', rfl, marks'⟩ := h'
  exact ⟨taken ++ taken', by simp, List.forall_mem_append.mpr ⟨marks, marks'⟩⟩

/-! ## Digits -/

theorem isSome_digitValue?_mono {base base' : Nat} (le : base ≤ base') (h : (Text.digitValue? base c).isSome) :
    (Text.digitValue? base' c).isSome := by
  unfold Text.digitValue? at *
  grind

theorem leaves_readDigits {base : Nat} (le : base ≤ 16) (s : List Char) : Leaves s (readDigits base s).2 := by
  induction s with
  | nil => exact .refl []
  | cons c s ih =>
    unfold readDigits
    cases digit : Text.digitValue? base c with
    | none => exact .refl _
    | some d => exact ih.cons (.inr (.inr (isSome_digitValue?_mono le (by simp [digit]))))

theorem leaves_readOctet {n : Nat} (h : readOctet s = some (n, rest)) : Leaves s rest := by
  have left : Leaves s (readDigits 10 s).2 := leaves_readDigits (by decide) s
  cases read : readDigits 10 s with
  | mk ds after =>
    simp only [readOctet, read] at h left
    split at h
    · cases h
    · cases h
      exact left

theorem leaves_readGroup {n : Nat} (h : readGroup s = some (n, rest)) : Leaves s rest := by
  have left : Leaves s (readDigits 16 s).2 := leaves_readDigits (by decide) s
  cases read : readDigits 16 s with
  | mk ds after =>
    simp only [readGroup, read] at h left
    split at h
    · cases h
    · cases h
      exact left

theorem leaves_expect (mark : IsMark c) (h : expect c s = some rest) : Leaves s rest := by
  cases s with
  | nil => cases h
  | cons d s =>
    simp only [expect] at h
    split at h
    · next same =>
      cases h
      exact (Leaves.refl rest).cons (same ▸ mark)
    · cases h

/-! ## Addresses -/

theorem leaves_readV4 {octets : List Nat} (h : readV4 s = some (octets, rest)) : Leaves s rest := by
  have point : IsMark '.' := .inl rfl
  unfold readV4 at h
  obtain ⟨⟨a, s₁⟩, first, h⟩ := Option.bind_eq_some_iff.1 h
  obtain ⟨s₂, point₁, h⟩ := Option.bind_eq_some_iff.1 h
  obtain ⟨⟨b, s₃⟩, second, h⟩ := Option.bind_eq_some_iff.1 h
  obtain ⟨s₄, point₂, h⟩ := Option.bind_eq_some_iff.1 h
  obtain ⟨⟨c, s₅⟩, third, h⟩ := Option.bind_eq_some_iff.1 h
  obtain ⟨s₆, point₃, h⟩ := Option.bind_eq_some_iff.1 h
  obtain ⟨⟨d, s₇⟩, fourth, h⟩ := Option.bind_eq_some_iff.1 h
  cases h
  exact (leaves_readOctet first).trans <| (leaves_expect point point₁).trans <| (leaves_readOctet second).trans <|
    (leaves_expect point point₂).trans <| (leaves_readOctet third).trans <| (leaves_expect point point₃).trans <|
    leaves_readOctet fourth

theorem leaves_readGroups (first : Bool) (room : Nat) (s : List Char) : Leaves s (readGroups first room s).2.2 := by
  induction room generalizing first s with
  | zero => exact .refl s
  | succ room ih =>
    have begin : ∀ start, (if first then some s else expect ':' s) = some start → Leaves s start := by
      intro start h
      cases first with
      | true => cases h; exact .refl s
      | false => exact leaves_expect (.inr (.inl rfl)) h
    simp only [readGroups]
    generalize (if first = true then some s else expect ':' s) = start at begin ⊢
    split
    · next a b c d after v4 =>
      split at v4
      · obtain ⟨s', h, v4⟩ := Option.bind_eq_some_iff.1 v4
        exact (begin s' h).trans (leaves_readV4 v4)
      · cases v4
    · split
      · exact .refl s
      · next g after group =>
        obtain ⟨s', h, group⟩ := Option.bind_eq_some_iff.1 group
        exact (begin s' h).trans ((leaves_readGroup group).trans (ih false after))

theorem leaves_readV6 {groups : List Nat} (h : readV6 s = some (groups, rest)) : Leaves s rest := by
  have colon : IsMark ':' := .inr (.inl rfl)
  have head := leaves_readGroups true 8 s
  unfold readV6 at h
  dsimp only at h
  split at h
  · cases h
    exact head
  · split at h
    · cases h
    · obtain ⟨s₁, colon₁, h⟩ := Option.bind_eq_some_iff.1 h
      obtain ⟨s₂, colon₂, h⟩ := Option.bind_eq_some_iff.1 h
      cases h
      exact head.trans <| (leaves_expect colon colon₁).trans <| (leaves_expect colon colon₂).trans <|
        leaves_readGroups true _ s₂

theorem isMark_of_parse? {text : String} {address : IpAddress} (h : parse? text = some address) :
    ∀ c ∈ text.toList, IsMark c := by
  have whole : ∀ {rest}, Leaves text.toList rest → rest.isEmpty → ∀ c ∈ text.toList, IsMark c := by
    rintro rest ⟨taken, same, marks⟩ empty
    rw [List.isEmpty_iff.mp empty, List.append_nil] at same
    rwa [same]
  unfold parse? at h
  split at h
  · next octets rest v4 =>
    split at h
    · next empty => exact whole (leaves_readV4 v4) empty
    · cases h
  · split at h
    · next groups rest v6 =>
      split at h
      · next empty => exact whole (leaves_readV6 v6) empty
      · cases h
    · cases h

theorem IsMark.isBlank_eq_false (h : IsMark c) : Text.isBlank c = false := by
  rcases h with rfl | rfl | digit
  · rfl
  · rfl
  · have bounds : 48 ≤ c.toNat ∧ c.toNat ≤ 102 := by
      simp only [Text.digitValue?, Char.le_def, UInt32.le_iff_toNat_le, Char.reduceVal, UInt32.reduceToNat] at digit
      grind [Char.toNat]
    simp only [Text.isBlank]
    grind

/-- The text of an address holds no white space. -/
theorem isBlank_eq_false_of_parse? {text : String} (h : (parse? text).isSome) :
    ∀ c ∈ text.toList, Text.isBlank c = false := by
  obtain ⟨address, parsed⟩ := Option.isSome_iff_exists.1 h
  exact fun c hc => (isMark_of_parse? parsed c hc).isBlank_eq_false

end Armory.Net.IpAddress
