import Armory.Json.Value
import Armory.Text.Digits

/-! Reading JSON. `Json.parse?` accepts one value between white space and nothing else. Strings admit no
raw control characters; numbers have no leading zeros; fields keep their order and their repetitions. -/
namespace Armory.Json

/-- White space between tokens. -/
def isSpace (c : Char) : Bool := c == ' ' || c == '\n' || c == '\t' || c == '\r'

/-- The text after its leading white space. -/
def skipSpace (s : List Char) : List Char := s.dropWhile isSpace

/-! ## Strings -/

/-- What a string token is made of: characters, and units of two bytes given by an escape. -/
inductive Piece where
  | char (c : Char)
  | unit (n : Nat)

/-- The number that four hexadecimal digits spell. -/
def hexUnit? (a b c d : Char) : Option Nat := do
  let a ← Armory.Text.hexValue? a
  let b ← Armory.Text.hexValue? b
  let c ← Armory.Text.hexValue? c
  let d ← Armory.Text.hexValue? d
  pure (((a * 16 + b) * 16 + c) * 16 + d)

/-- The character that a backslash and one letter stand for. -/
def shortEscape? (c : Char) : Option Char :=
  if c = '"' then some '"'
  else if c = '\\' then some '\\'
  else if c = '/' then some '/'
  else if c = 'b' then some '\x08'
  else if c = 'f' then some '\x0c'
  else if c = 'n' then some '\n'
  else if c = 'r' then some '\r'
  else if c = 't' then some '\t'
  else none

/-- The pieces of a string token up to its closing quote, and what follows the quote. -/
def readPieces : List Char → Option (List Piece × List Char)
  | [] => none
  | '"' :: rest => some ([], rest)
  | '\\' :: 'u' :: a :: b :: c :: d :: rest => do
    let n ← hexUnit? a b c d
    let (pieces, after) ← readPieces rest
    pure (.unit n :: pieces, after)
  | '\\' :: e :: rest => do
    let c ← shortEscape? e
    let (pieces, after) ← readPieces rest
    pure (.char c :: pieces, after)
  | c :: rest =>
    if c.toNat < 32 then none
    else do
      let (pieces, after) ← readPieces rest
      pure (.char c :: pieces, after)

/-- The first half of a surrogate pair. -/
def isHighHalf (n : Nat) : Bool := 0xD800 ≤ n && n < 0xDC00

/-- The second half of a surrogate pair. -/
def isLowHalf (n : Nat) : Bool := 0xDC00 ≤ n && n < 0xE000

/-- The text that pieces spell, two halves of a pair making one character; none if a half stands
alone. -/
def spell : List Piece → Option (List Char)
  | [] => some []
  | .char c :: rest => (spell rest).map (c :: ·)
  | .unit n :: .unit m :: rest =>
    if isHighHalf n then
      if isLowHalf m then
        (spell rest).map (Char.ofNat (0x10000 + (n - 0xD800) * 0x400 + (m - 0xDC00)) :: ·)
      else none
    else if isLowHalf n then none
    else (spell (.unit m :: rest)).map (Char.ofNat n :: ·)
  | .unit n :: rest =>
    if isHighHalf n || isLowHalf n then none
    else (spell rest).map (Char.ofNat n :: ·)

/-- A string token after its opening quote, and what follows it. -/
def readText (s : List Char) : Option (Text × List Char) := do
  let (pieces, after) ← readPieces s
  pure ((spell pieces).map String.ofList, after)

/-! ## Numbers -/

open Armory.Text (isDigit digitsValue)

/-- The part of a number after its point: the digits, at least one, and what follows. -/
def readFraction : List Char → Option (List Char × List Char)
  | '.' :: rest =>
    match rest.takeWhile isDigit with
    | [] => none
    | ds => some (ds, rest.dropWhile isDigit)
  | s => some ([], s)

/-- The exponent of a number, at least one digit after an optional sign, or none where no exponent
stands. -/
def readExponent : List Char → Option (Option Int × List Char)
  | [] => some (none, [])
  | e :: rest =>
    if e = 'e' ∨ e = 'E' then
      let (negative, ds) := match rest with
        | '-' :: r => (true, r)
        | '+' :: r => (false, r)
        | r => (false, r)
      match ds.takeWhile isDigit with
      | [] => none
      | digits =>
        let n : Int := digitsValue digits
        some (some (if negative then -n else n), ds.dropWhile isDigit)
    else some (none, e :: rest)

/-- A number token without its sign, and what follows it. A sign before zero makes a decimal. -/
def readUnsigned (negative : Bool) (s : List Char) : Option (Number × List Char) :=
  match s.takeWhile isDigit with
  | [] => none
  | '0' :: _ :: _ => none
  | ds => do
    let (fraction, s) ← readFraction (s.dropWhile isDigit)
    let (exponent, s) ← readExponent s
    let n : Int := digitsValue (ds ++ fraction)
    let n := if negative then -n else n
    if fraction.isEmpty && exponent.isNone && !(negative && n == 0) then pure (.whole n, s)
    else pure (.decimal n (exponent.getD 0 - fraction.length), s)

/-- A number token and what follows it. -/
def readNumber : List Char → Option (Number × List Char)
  | '-' :: rest => readUnsigned true rest
  | s => readUnsigned false s

/-! ## Values -/

mutual
/-- A value and what follows it. The first argument bounds the nesting and the count of entries together;
twice the length of the text is always enough. -/
def readValue : Nat → List Char → Option (Json × List Char)
  | 0, _ => none
  | fuel + 1, s =>
    match skipSpace s with
    | 'n' :: 'u' :: 'l' :: 'l' :: rest => some (.null, rest)
    | 't' :: 'r' :: 'u' :: 'e' :: rest => some (.bool true, rest)
    | 'f' :: 'a' :: 'l' :: 's' :: 'e' :: rest => some (.bool false, rest)
    | '"' :: rest => (readText rest).map fun (t, after) => (.str t, after)
    | '[' :: rest =>
      match skipSpace rest with
      | ']' :: after => some (.arr [], after)
      | rest => (readItems fuel rest).map fun (items, after) => (.arr items, after)
    | '\x7b' :: rest =>
      match skipSpace rest with
      | '\x7d' :: after => some (.obj [], after)
      | rest => (readFields fuel rest).map fun (fields, after) => (.obj fields, after)
    | s => (readNumber s).map fun (n, after) => (.num n, after)

/-- The entries of an array, at least one, up to its closing bracket. -/
def readItems : Nat → List Char → Option (List Json × List Char)
  | 0, _ => none
  | fuel + 1, s => do
    let (v, s) ← readValue fuel s
    match skipSpace s with
    | ',' :: rest => do
      let (items, after) ← readItems fuel rest
      pure (v :: items, after)
    | ']' :: after => pure ([v], after)
    | _ => none

/-- The fields of an object, at least one, up to its closing brace. -/
def readFields : Nat → List Char → Option (List (Text × Json) × List Char)
  | 0, _ => none
  | fuel + 1, s =>
    match skipSpace s with
    | '"' :: s => do
      let (k, s) ← readText s
      match skipSpace s with
      | ':' :: s => do
        let (v, s) ← readValue fuel s
        match skipSpace s with
        | ',' :: rest => do
          let (fields, after) ← readFields fuel rest
          pure ((k, v) :: fields, after)
        | '\x7d' :: after => pure ([(k, v)], after)
        | _ => none
      | _ => none
    | _ => none
end

/-- The value that a whole text spells. -/
def parseChars? (s : List Char) : Option Json := do
  let (v, rest) ← readValue (2 * s.length + 2) s
  if (skipSpace rest).isEmpty then pure v else none

/-- The value that a whole text spells. -/
def parse? (s : String) : Option Json := parseChars? s.toList

end Armory.Json
