import Armory.Bits
import Armory.Json.Decode
import Armory.Text.Blank
import Armory.Text.Digits
import Armory.Time.Calendar
import Armory.Toml.Value

/-! Numbers, booleans, dates and times in TOML: everything that is written as one word without quotes. -/
namespace Armory.Toml

/-- Digits without the underscores that stand between them. -/
def ungroup? (isDigit : Char → Bool) : List Char → Option (List Char)
  | [] => none
  | [c] => if isDigit c then some [c] else none
  | c :: '_' :: rest => if isDigit c then (ungroup? isDigit rest).map (c :: ·) else none
  | c :: rest => if isDigit c then (ungroup? isDigit rest).map (c :: ·) else none

/-- A sign, as whether it is a minus, and what follows it. -/
def readSign : List Char → Bool × List Char
  | '-' :: rest => (true, rest)
  | '+' :: rest => (false, rest)
  | s => (false, s)

/-- Decimal digits of a whole part, without a zero in front of others. -/
def wholeDigits? (s : List Char) : Option (List Char) :=
  (ungroup? Text.isDigit s).bind fun
    | '0' :: _ :: _ => none
    | ds => some ds

/-- The number that digits spell in a base of at most sixteen. -/
def inBase? (base : Nat) (s : List Char) : Option Nat := do
  let ds ← ungroup? (fun c => (Text.hexValue? c).any (· < base)) s
  pure (ds.foldl (fun n c => n * base + (Text.hexValue? c).getD 0) 0)

/-- A whole number. -/
def whole? : List Char → Option Int
  | '0' :: 'x' :: rest => (inBase? 16 rest).map Int.ofNat
  | '0' :: 'o' :: rest => (inBase? 8 rest).map Int.ofNat
  | '0' :: 'b' :: rest => (inBase? 2 rest).map Int.ofNat
  | s => do
    let (negative, s) := readSign s
    let ds ← wholeDigits? s
    let n : Int := Text.digitsValue ds
    pure (if negative then -n else n)

/-- A whole number of 64 bits with a sign. -/
def int? (s : List Char) : Option Int := (whole? s).filter (Bits.holdsSigned 64)

/-- The digits after a point. -/
def fraction? : List Char → Option (List Char)
  | [] => some []
  | '.' :: rest => ungroup? Text.isDigit rest
  | _ => none

/-- The number after the letter of an exponent. -/
def exponent? : List Char → Option Int
  | [] => some 0
  | _ :: rest => do
    let (negative, s) := readSign rest
    let ds ← ungroup? Text.isDigit s
    let n : Int := Text.digitsValue ds
    pure (if negative then -n else n)

/-- Whether a word is a number with a fraction or an exponent, small enough to be held in 64 bits. -/
def isFloat (s : List Char) : Bool :=
  let (negative, s) := readSign s
  if s == "inf".toList || s == "nan".toList then true
  else
    let head := s.takeWhile fun c => c != 'e' && c != 'E'
    let tail := s.dropWhile fun c => c != 'e' && c != 'E'
    match wholeDigits? (head.takeWhile (· != '.')), fraction? (head.dropWhile (· != '.')),
      exponent? tail with
    | some w, some f, some e =>
      (!f.isEmpty || !tail.isEmpty) &&
        (negative || Json.fitsDouble (Text.digitsValue (w ++ f)) (e - f.length))
    | _, _, _ => false

/-! ## Dates and times -/

/-- The number that exactly so many decimal digits spell. -/
def fixed? (places : Nat) (s : List Char) : Option Nat :=
  if s.length = places ∧ s.all Text.isDigit then some (Text.digitsValue s) else none

/-- Whether a word is a date of the calendar. -/
def isDate (s : List Char) : Bool :=
  match Text.splitAt '-' s with
  | [y, m, d] => match fixed? 4 y, fixed? 2 m, fixed? 2 d with
    | some y, some m, some d =>
      1 ≤ m && m ≤ 12 && 1 ≤ d && d ≤ Time.daysInMonth y m
    | _, _, _ => false
  | _ => false

/-- Whether a word is a time of the day; a minute may have a leap second. -/
def isTime (s : List Char) : Bool :=
  let whole := s.takeWhile (· != '.')
  let fraction := match s.dropWhile (· != '.') with
    | [] => true
    | _ :: ds => !ds.isEmpty && ds.all Text.isDigit
  fraction && match Text.splitAt ':' whole with
    | [h, m, sec] => match fixed? 2 h, fixed? 2 m, fixed? 2 sec with
      | some h, some m, some sec => h < 24 && m < 60 && sec ≤ 60
      | _, _, _ => false
    | _ => false

/-- Whether a word is a distance from universal time. -/
def isOffset (s : List Char) : Bool :=
  match s with
  | [] => true
  | ['Z'] => true
  | ['z'] => true
  | sign :: rest => (sign == '+' || sign == '-') && match Text.splitAt ':' rest with
    | [h, m] => match fixed? 2 h, fixed? 2 m with
      | some h, some m => h < 24 && m < 60
      | _, _ => false
    | _ => false

/-- Whether a word is a time of the day, perhaps with its distance from universal time. -/
def isTimeOfDate (s : List Char) : Bool :=
  let isTimeChar (c : Char) : Bool := Text.isDigit c || c == ':' || c == '.'
  isTime (s.takeWhile isTimeChar) && isOffset (s.dropWhile isTimeChar)

/-- Whether a word is a date, a time, or a date and a time joined by the letter `T`. -/
def isMoment (s : List Char) : Bool :=
  isTime s || isDate s ||
    (isDate (s.take 10) && match s.drop 10 with
      | c :: time => (c == 'T' || c == 't') && isTimeOfDate time
      | [] => false)

/-! ## Words -/

/-- A character of a word. -/
def isWordChar (c : Char) : Bool :=
  c.isAlphanum || c == '+' || c == '-' || c == '_' || c == '.' || c == ':'

/-- The value of a word. -/
def ofWord? (s : List Char) : Option Toml :=
  if s == "true".toList then some (.bool true)
  else if s == "false".toList then some (.bool false)
  else match int? s with
    | some n => some (.int n)
    | none =>
      if isFloat s then some .float
      else if isMoment s then some .moment
      else none

/-- The value of a word, and what follows it. A blank may stand between a date and a time. -/
def readWord (s : List Char) : Option (Toml × List Char) :=
  let word := s.takeWhile isWordChar
  let rest := s.dropWhile isWordChar
  match rest with
  | ' ' :: more =>
    if isDate word && isTimeOfDate (more.takeWhile isWordChar) then
      some (.moment, more.dropWhile isWordChar)
    else (ofWord? word).map (·, rest)
  | _ => (ofWord? word).map (·, rest)

end Armory.Toml
