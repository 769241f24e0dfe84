import Armory.Json.Value

/-! Writing JSON. `Json.compact` leaves out all white space; `Json.pretty` puts each entry on a line of its
own, indented by two spaces a level. In strings only the quote, the backslash and the control characters
are escaped. -/
namespace Armory.Json

/-- A hexadecimal digit in small letters. -/
def hexDigit (n : Nat) : Char :=
  if n < 10 then Char.ofNat (48 + n) else Char.ofNat (87 + n)

/-- How one character stands in a string. -/
def escapeChar (c : Char) : List Char :=
  if c = '"' then ['\\', '"']
  else if c = '\\' then ['\\', '\\']
  else if c.toNat < 32 then
    if c.toNat = 8 then ['\\', 'b']
    else if c.toNat = 9 then ['\\', 't']
    else if c.toNat = 10 then ['\\', 'n']
    else if c.toNat = 12 then ['\\', 'f']
    else if c.toNat = 13 then ['\\', 'r']
    else ['\\', 'u', '0', '0', hexDigit (c.toNat / 16), hexDigit (c.toNat % 16)]
  else [c]

/-- A string token. -/
def quoted (s : List Char) : List Char := '"' :: s.flatMap escapeChar ++ ['"']

/-- The token of an optional text; half of a surrogate pair is written as an empty string. -/
def writeText (s : Text) : List Char := quoted (s.getD "").toList

/-- The digits of a natural number. -/
def writeNat (n : Nat) : List Char := Nat.toDigits 10 n

/-- A whole number. -/
def writeInt : Int → List Char
  | .ofNat n => writeNat n
  | .negSucc n => '-' :: writeNat (n + 1)

/-- A decimal fraction in positional notation with at least one digit after the point, as long as it has
at most 30 places; otherwise with an exponent. -/
def writeDecimal (mantissa exponent : Int) : List Char :=
  let sign := if mantissa < 0 then ['-'] else []
  let digits := writeNat mantissa.natAbs
  if 0 ≤ exponent && exponent ≤ 30 then
    sign ++ digits ++ List.replicate exponent.toNat '0' ++ ['.', '0']
  else if -30 ≤ exponent && exponent < 0 then
    let places := (-exponent).toNat
    let padded := List.replicate (places + 1 - digits.length) '0' ++ digits
    sign ++ padded.take (padded.length - places) ++ '.' :: padded.drop (padded.length - places)
  else sign ++ digits ++ 'e' :: writeInt exponent

/-- A number token. -/
def writeNumber : Number → List Char
  | .whole n => writeInt n
  | .decimal m e => writeDecimal m e

mutual
/-- A value without white space. -/
def writeCompact : Json → List Char
  | .null => ['n', 'u', 'l', 'l']
  | .bool true => ['t', 'r', 'u', 'e']
  | .bool false => ['f', 'a', 'l', 's', 'e']
  | .num n => writeNumber n
  | .str s => writeText s
  | .arr items => '[' :: writeItems items
  | .obj fields => '\x7b' :: writeFields fields

/-- The entries of an array and its closing bracket. -/
def writeItems : List Json → List Char
  | [] => [']']
  | [v] => writeCompact v ++ [']']
  | v :: rest => writeCompact v ++ ',' :: writeItems rest

/-- The fields of an object and its closing brace. -/
def writeFields : List (Text × Json) → List Char
  | [] => ['\x7d']
  | [(k, v)] => writeText k ++ ':' :: writeCompact v ++ ['\x7d']
  | (k, v) :: rest => writeText k ++ ':' :: writeCompact v ++ ',' :: writeFields rest
end

/-- The text of a value without white space. -/
def compact (v : Json) : String := String.ofList (writeCompact v)

/-- A line break followed by the indentation of a level. -/
def newline (level : Nat) : List Char := '\n' :: List.replicate (2 * level) ' '

mutual
/-- A value laid out over several lines, itself at the given level. -/
def writePretty (level : Nat) : Json → List Char
  | .arr [] => ['[', ']']
  | .arr (v :: rest) => '[' :: newline (level + 1) ++ writePretty (level + 1) v
      ++ writePrettyItems level rest
  | .obj [] => ['\x7b', '\x7d']
  | .obj ((k, v) :: rest) => '\x7b' :: newline (level + 1) ++ writeText k ++ [':', ' ']
      ++ writePretty (level + 1) v ++ writePrettyFields level rest
  | .null => ['n', 'u', 'l', 'l']
  | .bool true => ['t', 'r', 'u', 'e']
  | .bool false => ['f', 'a', 'l', 's', 'e']
  | .num n => writeNumber n
  | .str s => writeText s

/-- The entries of an array after its first. -/
def writePrettyItems (level : Nat) : List Json → List Char
  | [] => newline level ++ [']']
  | v :: rest => ',' :: newline (level + 1) ++ writePretty (level + 1) v
      ++ writePrettyItems level rest

/-- The fields of an object after its first. -/
def writePrettyFields (level : Nat) : List (Text × Json) → List Char
  | [] => newline level ++ ['\x7d']
  | (k, v) :: rest => ',' :: newline (level + 1) ++ writeText k ++ [':', ' ']
      ++ writePretty (level + 1) v ++ writePrettyFields level rest
end

/-- The text of a value laid out over several lines. -/
def pretty (v : Json) : String := String.ofList (writePretty 0 v)

end Armory.Json
