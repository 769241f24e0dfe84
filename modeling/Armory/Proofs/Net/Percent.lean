import Mathlib.Data.List.Basic
import Armory.Net.Percent

/-!
# Percent-encoding a name

A name is put into a path byte by byte: the unreserved characters stand for themselves, every other byte is written
with a percent sign. What is written so holds no character that ends a segment (`forall_mem_encode`) and is read as
the name (`decode?_encode`).
-/

namespace Armory.Net.Percent

/-- The bytes that stand for themselves: letters and figures of ASCII, and four signs. -/
def isUnreserved (b : UInt8) : Bool :=
  (0x30 ≤ b && b ≤ 0x39) || (0x41 ≤ b && b ≤ 0x5A) || (0x61 ≤ b && b ≤ 0x7A) ||
    b == 0x2D || b == 0x2E || b == 0x5F || b == 0x7E

/-- A hexadecimal digit, in capital letters. -/
def digit (n : Nat) : Char := Char.ofNat (if n < 10 then 0x30 + n else 0x37 + n)

/-- A byte as it is written. -/
def encodeByte (b : UInt8) : List Char :=
  if isUnreserved b then [Char.ofNat b.toNat] else ['%', digit (b.toNat / 16), digit (b.toNat % 16)]

/-- A text as it is written. -/
def encode (s : String) : List Char := s.toUTF8.data.toList.flatMap encodeByte

/-! ## One byte -/

section Unreserved

variable {b : UInt8}

theorem isUnreserved_iff : isUnreserved b = true ↔
    0x30 ≤ b.toNat ∧ b.toNat ≤ 0x39 ∨ 0x41 ≤ b.toNat ∧ b.toNat ≤ 0x5A ∨ 0x61 ≤ b.toNat ∧ b.toNat ≤ 0x7A ∨
      b.toNat = 0x2D ∨ b.toNat = 0x2E ∨ b.toNat = 0x5F ∨ b.toNat = 0x7E := by
  simp [isUnreserved, UInt8.le_iff_toNat_le, ← UInt8.toNat_inj, or_assoc]

theorem toNat_le_of_isUnreserved (plain : isUnreserved b = true) : b.toNat ≤ 127 := by
  have ranges := isUnreserved_iff.mp plain
  omega

theorem toNat_ofNat_of_isUnreserved (plain : isUnreserved b = true) : (Char.ofNat b.toNat).toNat = b.toNat := by
  have few := toNat_le_of_isUnreserved plain
  rw [Char.ofNat, dif_pos (.inl (by omega))]
  rfl

theorem toList_toByteArray_singleton (b : UInt8) : [b].toByteArray.toList = [b] := by
  rw [ByteArray.toList, ByteArray.toList.loop, ByteArray.toList.loop]
  rfl

/-- An unreserved byte is the one byte of the character that it stands for. -/
theorem toUTF8_of_isUnreserved (plain : isUnreserved b = true) :
    (String.singleton (Char.ofNat b.toNat)).toUTF8.toList = [b] := by
  have code : (Char.ofNat b.toNat).val.toNat = b.toNat := toNat_ofNat_of_isUnreserved plain
  have one : (Char.ofNat b.toNat).utf8Size = 1 := by
    rw [Char.utf8Size_eq_one_iff, UInt32.le_iff_toNat_le, code]
    exact toNat_le_of_isUnreserved plain
  have byte : (Char.ofNat b.toNat).val.toUInt8 = b := by
    rw [← UInt8.toNat_inj, UInt32.toNat_toUInt8, code, Nat.mod_eq_of_lt b.toNat_lt]
  rw [String.toUTF8_eq_toByteArray, String.toByteArray_singleton, List.utf8Encode_singleton,
    String.utf8EncodeChar_eq_singleton one, byte, toList_toByteArray_singleton]

/-- No unreserved byte stands for a mark that means something in a target. -/
theorem no_mark_of_isUnreserved (plain : isUnreserved b = true) : Char.ofNat b.toNat ≠ '%' ∧
    Char.ofNat b.toNat ≠ '/' ∧ Char.ofNat b.toNat ≠ '?' ∧ Char.ofNat b.toNat ≠ '#' := by
  have ranges := isUnreserved_iff.mp plain
  simp only [ne_eq, ← Char.toNat_inj, toNat_ofNat_of_isUnreserved plain, Char.reduceToNat]
  omega

end Unreserved

theorem hexValue?_digit : ∀ n < 16, Text.hexValue? (digit n) = some n := by
  decide

theorem decodeBytes_cons {c : Char} (h : c ≠ '%') (rest : List Char) :
    decodeBytes (c :: rest) = (String.singleton c).toUTF8.toList ++ decodeBytes rest := by
  rw [decodeBytes]
  exact fun _ _ _ same => absurd same h

/-- A byte is read as it was written. -/
theorem decodeBytes_encodeByte (b : UInt8) (rest : List Char) :
    decodeBytes (encodeByte b ++ rest) = b :: decodeBytes rest := by
  unfold encodeByte
  split
  · next plain =>
    rw [List.singleton_append, decodeBytes_cons (no_mark_of_isUnreserved plain).1,
      toUTF8_of_isUnreserved plain, List.singleton_append]
  · have small : b.toNat < 256 := b.toNat_lt
    simp only [List.cons_append, List.nil_append, decodeBytes]
    rw [hexValue?_digit _ (by omega), hexValue?_digit _ (by omega)]
    simp [Nat.div_add_mod']

theorem no_separator_digit : ∀ n < 16, digit n ≠ '/' ∧ digit n ≠ '?' ∧ digit n ≠ '#' := by
  decide

/-- A character that is written is no separator of a target. -/
theorem forall_mem_encodeByte (b : UInt8) : ∀ c ∈ encodeByte b, c ≠ '/' ∧ c ≠ '?' ∧ c ≠ '#' := by
  have small : b.toNat < 256 := b.toNat_lt
  unfold encodeByte
  split
  · next plain => simpa using (no_mark_of_isUnreserved plain).2
  · simp only [List.forall_mem_cons]
    exact ⟨by decide, no_separator_digit _ (by omega), no_separator_digit _ (by omega), by simp⟩

/-! ## A text -/

theorem decodeBytes_flatMap (bytes : List UInt8) : decodeBytes (bytes.flatMap encodeByte) = bytes := by
  induction bytes with
  | nil => rfl
  | cons b rest ih => rw [List.flatMap_cons, decodeBytes_encodeByte, ih]

/-- **A text is read as it was written.** -/
theorem decode?_encode (s : String) : decode? (encode s) = some s := by
  rw [decode?, encode, decodeBytes_flatMap, Array.toArray_toList]
  exact dif_pos s.isValidUTF8

theorem forall_mem_encode (s : String) : ∀ c ∈ encode s, c ≠ '/' ∧ c ≠ '?' ∧ c ≠ '#' := by
  intro c hc
  obtain ⟨b, -, hb⟩ := List.mem_flatMap.1 hc
  exact forall_mem_encodeByte b c hb

end Armory.Net.Percent
