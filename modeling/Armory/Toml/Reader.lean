import Armory.Toml.Number
import Armory.Toml.Quoted

/-! Reading TOML. `Toml.parse?` reads a document statement by statement, each on its own line; values between
brackets may span lines, those between braces may not. -/
namespace Armory.Toml

/-- How many levels of brackets and braces, and how many parts of a key, are too many. -/
def nestingLimit : Nat := 80

/-- White space within a line. -/
def isBlank (c : Char) : Bool := c == ' ' || c == '\t'

/-- The text after its leading white space. -/
def skipBlanks (s : List Char) : List Char := s.dropWhile isBlank

/-- What follows a line break; nothing follows the end of the text. -/
def afterBreak? : List Char → Option (List Char)
  | [] => some []
  | '\n' :: rest => some rest
  | '\r' :: '\n' :: rest => some rest
  | _ => none

/-- What follows the rest of a line, which holds nothing but white space and perhaps a comment. -/
def afterLine? (s : List Char) : Option (List Char) :=
  match skipBlanks s with
  | '#' :: rest => afterBreak? (rest.dropWhile isPlain)
  | s => afterBreak? s

/-- The text after white space, line breaks and comments. The first argument says whether it begins within a
comment. -/
def skipLines : Bool → List Char → List Char
  | _, [] => []
  | _, '\n' :: rest => skipLines false rest
  | _, '\r' :: '\n' :: rest => skipLines false rest
  | true, c :: rest => if isPlain c then skipLines true rest else c :: rest
  | false, c :: rest =>
    if isBlank c then skipLines false rest
    else if c = '#' then skipLines true rest
    else c :: rest

/-! ## Keys -/

/-- A character of a key without quotes. -/
def isKeyChar (c : Char) : Bool := c.isAlphanum || c == '-' || c == '_'

/-- One part of a key, and what follows it. -/
def readPart (s : List Char) : Option (String × List Char) :=
  match readLine? s with
  | some (t, rest) => some (String.ofList t, rest)
  | none => match s.takeWhile isKeyChar with
    | [] => none
    | t => some (String.ofList t, s.dropWhile isKeyChar)

/-- The parts of a key, separated by points, and what follows them. The first argument bounds their number. -/
def readParts : Nat → List Char → Option (List String × List Char)
  | 0, _ => none
  | fuel + 1, s => do
    let (part, rest) ← readPart (skipBlanks s)
    match skipBlanks rest with
    | '.' :: rest => do
      let (parts, rest) ← readParts fuel rest
      pure (part :: parts, rest)
    | rest => pure ([part], rest)

/-- A key, and what follows it. -/
def readKey (s : List Char) : Option (Key × List Char) := do
  let (parts, rest) ← readParts (nestingLimit - 1) s
  let last ← parts.getLast?
  pure (⟨parts.dropLast, last⟩, rest)

/-! ## Values -/

mutual
/-- A value, and what follows it. The first argument bounds nesting and entries together, the second one
nesting alone. -/
def readValue : Nat → Nat → List Char → Option (Toml × List Char)
  | 0, _, _ => none
  | fuel + 1, depth, s => match s with
    | '[' :: rest => match depth with
      | 0 => none
      | depth + 1 => (readItems fuel depth rest).map fun (items, rest) => (.array items, rest)
    | '\x7b' :: rest => match depth with
      | 0 => none
      | depth + 1 => match skipBlanks rest with
        | '\x7d' :: rest => some (.table ⟨.braces, []⟩, rest)
        | _ => do
          let (entries, rest) ← readEntries fuel depth rest
          let t ← Table.ofEntries? entries
          pure (.table t, rest)
    | s => match readText? s with
      | some (t, rest) => some (.text (String.ofList t), rest)
      | none => readWord s

/-- The values of an array up to its closing bracket; a comma may follow the last one. -/
def readItems : Nat → Nat → List Char → Option (List Toml × List Char)
  | 0, _, _ => none
  | fuel + 1, depth, s => match skipLines false s with
    | ']' :: rest => some ([], rest)
    | s => do
      let (v, rest) ← readValue fuel depth s
      match skipLines false rest with
      | ',' :: rest => do
        let (items, rest) ← readItems fuel depth rest
        pure (v :: items, rest)
      | ']' :: rest => pure ([v], rest)
      | _ => none

/-- The entries of a table, at least one, up to its closing brace. -/
def readEntries : Nat → Nat → List Char → Option (List (Key × Toml) × List Char)
  | 0, _, _ => none
  | fuel + 1, depth, s => do
    let (e, rest) ← readEntry fuel depth s
    match skipBlanks rest with
    | ',' :: rest => do
      let (entries, rest) ← readEntries fuel depth rest
      pure (e :: entries, rest)
    | '\x7d' :: rest => pure ([e], rest)
    | _ => none

/-- A key and its value, and what follows them. -/
def readEntry : Nat → Nat → List Char → Option ((Key × Toml) × List Char)
  | 0, _, _ => none
  | fuel + 1, depth, s => do
    let (key, rest) ← readKey s
    match rest with
    | '=' :: rest => do
      let (v, rest) ← readValue fuel depth (skipBlanks rest)
      pure ((key, v), rest)
    | _ => none
end

/-! ## Documents -/

/-- The statement at the beginning of a text, and what follows its line. -/
def readStatement (s : List Char) : Option (Statement × List Char) :=
  match s with
  | '[' :: '[' :: rest => do
    let (key, rest) ← readKey rest
    match rest with
    | ']' :: ']' :: rest => (afterLine? rest).map (.element key, ·)
    | _ => none
  | '[' :: rest => do
    let (key, rest) ← readKey rest
    match rest with
    | ']' :: rest => (afterLine? rest).map (.table key, ·)
    | _ => none
  | s => do
    let ((key, v), rest) ← readEntry (2 * s.length + 2) (nestingLimit - 1) s
    (afterLine? rest).map (.entry key v, ·)

/-- The statements of a document. The first argument bounds the number of lines. -/
def readStatements : Nat → List Char → Option (List Statement)
  | 0, _ => none
  | fuel + 1, s => match skipBlanks s with
    | [] => some []
    | s => match afterLine? s with
      | some rest => readStatements fuel rest
      | none => do
        let (statement, rest) ← readStatement s
        let statements ← readStatements fuel rest
        pure (statement :: statements)

/-- A text without the mark of its encoding, if it begins with one. -/
def withoutMark : List Char → List Char
  | '\uFEFF' :: rest => rest
  | s => s

/-- The table that a document spells. -/
def parse? (s : String) : Option Table :=
  (readStatements (s.length + 1) (withoutMark s.toList)).bind Table.ofStatements?

end Armory.Toml
