import Armory.Json.Reader

/-! Quoted text in TOML: basic text between double quotes, in which a backslash escapes, and literal text
between single quotes; each on one line, or on several between triple quotes. Line breaks are read as single
line feeds, and control characters other than the tab are refused. -/
namespace Armory.Toml

/-- A character that may stand for itself in text or in a comment. -/
def isPlain (c : Char) : Bool := c == '\t' || (32 ≤ c.toNat && c.toNat != 127)

/-- The number that hexadecimal digits spell. -/
def hexNumber? (digits : List Char) : Option Nat :=
  digits.foldlM (fun n c => (Text.hexValue? c).map (n * 16 + ·)) 0

/-- The character with a number, if there is one. -/
def charOf? (n : Nat) : Option Char :=
  if n < 0xD800 ∨ (0xE000 ≤ n ∧ n < 0x110000) then some (Char.ofNat n) else none

/-- The character that a backslash and one letter stand for. -/
def shortEscape? (c : Char) : Option Char :=
  if c = '/' then none else Json.shortEscape? c

/-- What an escape stands for, and what follows it, after the backslash. -/
def readEscape : List Char → Option (Char × List Char)
  | 'u' :: a :: b :: c :: d :: rest => ((hexNumber? [a, b, c, d]).bind charOf?).map (·, rest)
  | 'U' :: a :: b :: c :: d :: e :: f :: g :: h :: rest =>
    ((hexNumber? [a, b, c, d, e, f, g, h]).bind charOf?).map (·, rest)
  | c :: rest => (shortEscape? c).map (·, rest)
  | [] => none

/-- The text before the given quote, and what follows the quote; without escapes. -/
def readLiteral : List Char → Option (List Char × List Char)
  | [] => none
  | '\'' :: rest => some ([], rest)
  | c :: rest => if isPlain c then (readLiteral rest).map fun (t, after) => (c :: t, after) else none

/-- Literal text of several lines up to its closing quotes; up to two more quotes before them belong to the
text. -/
def readLiteralLines : List Char → Option (List Char × List Char)
  | [] => none
  | '\'' :: '\'' :: '\'' :: '\'' :: '\'' :: rest => some (['\'', '\''], rest)
  | '\'' :: '\'' :: '\'' :: '\'' :: rest => some (['\''], rest)
  | '\'' :: '\'' :: '\'' :: rest => some ([], rest)
  | '\r' :: '\n' :: rest => (readLiteralLines rest).map fun (t, after) => ('\n' :: t, after)
  | c :: rest =>
    if isPlain c || c == '\n' then (readLiteralLines rest).map fun (t, after) => (c :: t, after)
    else none

/-- Basic text up to its closing quote. The first argument bounds the length. -/
def readBasic : Nat → List Char → Option (List Char × List Char)
  | 0, _ => none
  | _, [] => none
  | _, '"' :: rest => some ([], rest)
  | fuel + 1, '\\' :: rest => do
    let (c, rest) ← readEscape rest
    let (t, after) ← readBasic fuel rest
    pure (c :: t, after)
  | fuel + 1, c :: rest =>
    if isPlain c then (readBasic fuel rest).map fun (t, after) => (c :: t, after) else none

/-- The text after the white space and line breaks at its beginning. -/
def skipGap : List Char → List Char
  | ' ' :: rest => skipGap rest
  | '\t' :: rest => skipGap rest
  | '\n' :: rest => skipGap rest
  | '\r' :: '\n' :: rest => skipGap rest
  | s => s

/-- What follows the gap after a backslash that ends a line. -/
def afterLineEnd? : List Char → Option (List Char)
  | ' ' :: rest => afterLineEnd? rest
  | '\t' :: rest => afterLineEnd? rest
  | '\n' :: rest => some (skipGap rest)
  | '\r' :: '\n' :: rest => some (skipGap rest)
  | _ => none

/-- Basic text of several lines up to its closing quotes; up to two more quotes before them belong to the text.
A backslash at the end of a line leaves out the gap up to the next text. The first argument bounds the
length. -/
def readBasicLines : Nat → List Char → Option (List Char × List Char)
  | 0, _ => none
  | _, [] => none
  | _, '"' :: '"' :: '"' :: '"' :: '"' :: rest => some (['"', '"'], rest)
  | _, '"' :: '"' :: '"' :: '"' :: rest => some (['"'], rest)
  | _, '"' :: '"' :: '"' :: rest => some ([], rest)
  | fuel + 1, '\r' :: '\n' :: rest =>
    (readBasicLines fuel rest).map fun (t, after) => ('\n' :: t, after)
  | fuel + 1, '\\' :: rest => match afterLineEnd? rest with
    | some rest => readBasicLines fuel rest
    | none => do
      let (c, rest) ← readEscape rest
      let (t, after) ← readBasicLines fuel rest
      pure (c :: t, after)
  | fuel + 1, c :: rest =>
    if isPlain c || c == '\n' then (readBasicLines fuel rest).map fun (t, after) => (c :: t, after)
    else none

/-- The text after a line break right after the opening quotes. -/
def skipFirstBreak : List Char → List Char
  | '\n' :: rest => rest
  | '\r' :: '\n' :: rest => rest
  | s => s

/-- Text on one line in either kind of quotes, and what follows it. -/
def readLine? : List Char → Option (List Char × List Char)
  | '"' :: rest => readBasic (rest.length + 1) rest
  | '\'' :: rest => readLiteral rest
  | _ => none

/-- Text in any kind of quotes, and what follows it. -/
def readText? : List Char → Option (List Char × List Char)
  | '"' :: '"' :: '"' :: rest => readBasicLines (rest.length + 1) (skipFirstBreak rest)
  | '\'' :: '\'' :: '\'' :: rest => readLiteralLines (skipFirstBreak rest)
  | s => readLine? s

end Armory.Toml
