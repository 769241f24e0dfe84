import Armory.Text.Digits

/-! Percent-encoding: a byte is written as a percent sign and two hexadecimal digits. -/
namespace Armory.Net.Percent

/-- The bytes of a percent-encoded text. A percent sign that no two hexadecimal digits follow stands for
itself. -/
def decodeBytes : List Char → List UInt8
  | [] => []
  | '%' :: a :: b :: rest =>
    match Text.hexValue? a, Text.hexValue? b with
    | some x, some y => UInt8.ofNat (x * 16 + y) :: decodeBytes rest
    | _, _ => 0x25 :: decodeBytes (a :: b :: rest)
  | c :: rest => (String.singleton c).toUTF8.toList ++ decodeBytes rest

/-- The text that a percent-encoded text stands for, if its bytes spell one. -/
def decode? (s : List Char) : Option String := String.fromUTF8? ⟨(decodeBytes s).toArray⟩

end Armory.Net.Percent
