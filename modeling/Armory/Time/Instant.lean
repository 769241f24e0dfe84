import Armory.Text.Blank
import Armory.Text.Digits
import Armory.Time.Calendar

/-! Instants, read from and written as timestamps with an offset. Reading keeps nanoseconds and allows a space
for the `T`; writing gives the time at Greenwich with as many groups of three digits after the point as
the instant needs. A leap second is the second 60 of a minute. -/
namespace Armory.Time

/-- A point in time: seconds since the beginning of 1970 and nanoseconds, of which a leap second has more
than a thousand million. -/
structure Instant where
  seconds : Int
  nanos : Nat
  deriving DecidableEq, Repr

namespace Instant

/-- The beginning of 1970. -/
def epoch : Instant := ⟨0, 0⟩

instance : Inhabited Instant := ⟨epoch⟩

/-- Whether one instant is not after another. -/
def notAfter (a b : Instant) : Bool :=
  a.seconds < b.seconds || (a.seconds == b.seconds && a.nanos ≤ b.nanos)

/-! ## Reading -/

open Text (isDigit digitsValue)

/-- A number of at least one and at most `width` digits after white space, and what follows it. -/
def readDigits (width : Nat) (s : List Char) : Option (Nat × List Char) :=
  let s := Text.trimStart s
  let ds := (s.take width).takeWhile isDigit
  if ds.isEmpty then none else some (digitsValue ds, s.drop ds.length)

/-- A year: four digits at most, or any count of them after a sign. -/
def readYear (s : List Char) : Option (Int × List Char) :=
  match Text.trimStart s with
  | '-' :: rest => signed (-1) rest
  | '+' :: rest => signed 1 rest
  | rest => (readDigits 4 rest).map fun (n, r) => ((n : Int), r)
where
  /-- The digits after a sign. -/
  signed (sign : Int) (s : List Char) : Option (Int × List Char) :=
    let ds := s.takeWhile isDigit
    if ds.isEmpty then none else some (sign * digitsValue ds, s.drop ds.length)

/-- What follows a given mark after white space. -/
def skipMark (mark : Char) (s : List Char) : Option (List Char) :=
  match Text.trimStart s with
  | c :: rest => if c = mark then some rest else none
  | [] => none

/-- The nanoseconds after a decimal point, further digits being dropped; zero where no point stands. -/
def readNanos : List Char → Option (Nat × List Char)
  | '.' :: rest =>
    let ds := rest.takeWhile isDigit
    if ds.isEmpty then none
    else
      let kept := ds.take 9
      some (digitsValue kept * Nat.pow 10 (9 - kept.length), rest.drop ds.length)
  | s => some (0, s)

/-- The offset from the time at Greenwich in seconds, and what follows it. -/
def readOffset (s : List Char) : Option (Int × List Char) :=
  match s with
  | [] => none
  | c :: rest =>
    if c = 'Z' ∨ c = 'z' then some (0, rest)
    else if (s.take 3).map Char.toUpper = ['U', 'T', 'C'] then some (0, s.drop 3)
    else if c = '+' then hours 1 rest
    else if c = '-' ∨ c = '\u2212' then hours (-1) rest
    else none
where
  /-- Two digits of hours and two of minutes, with a colon or white space between. -/
  hours (sign : Int) : List Char → Option (Int × List Char)
    | h1 :: h2 :: rest =>
      if isDigit h1 ∧ isDigit h2 then
        match rest.dropWhile (fun c => c == ':' || Text.isBlank c) with
        | m1 :: m2 :: after =>
          if isDigit m1 ∧ isDigit m2 ∧ m1 ≤ '5' then
            some (sign * (digitsValue [h1, h2] * 3600 + digitsValue [m1, m2] * 60), after)
          else none
        | _ => none
      else none
    | _ => none

/-- The instant that a timestamp names. -/
def parse? (text : String) : Option Instant := do
  let (year, s) ← readYear text.toList
  let s ← skipMark '-' s
  let (month, s) ← readDigits 2 s
  let s ← skipMark '-' s
  let (day, s) ← readDigits 2 s
  let s ← match s with
    | 'T' :: rest => some rest
    | 't' :: rest => some rest
    | ' ' :: rest => some rest
    | _ => none
  let (hour, s) ← readDigits 2 s
  let s ← skipMark ':' s
  let (minute, s) ← readDigits 2 s
  let s ← skipMark ':' s
  let (second, s) ← readDigits 2 s
  let (nanos, s) ← readNanos s
  let (offset, s) ← readOffset (Text.trimStart s)
  let date : Date := ⟨year, month, day⟩
  if s.isEmpty && date.valid && -262143 ≤ year && year ≤ 262142 && hour < 24 && minute < 60 &&
      second ≤ 60 && -86400 < offset && offset < 86400 then
    let (second, nanos) := if second == 60 then (59, nanos + 1000000000) else (second, nanos)
    pure ⟨date.toDays * 86400 + hour * 3600 + minute * 60 + second - offset, nanos⟩
  else none

/-! ## Writing -/

/-- A number with leading zeros up to a width. -/
def padded (width n : Nat) : List Char :=
  let ds := Nat.toDigits 10 n
  List.replicate (width - ds.length) '0' ++ ds

/-- A year: four digits from 0 to 9999, otherwise a sign and at least four digits. -/
def writeYear (year : Int) : List Char :=
  if 0 ≤ year && year ≤ 9999 then padded 4 year.toNat
  else (if year < 0 then '-' else '+') :: padded 4 year.natAbs

/-- The fraction of a second in the fewest groups of three digits. -/
def writeNanos (n : Nat) : List Char :=
  if n == 0 then []
  else if n % 1000000 == 0 then '.' :: padded 3 (n / 1000000)
  else if n % 1000 == 0 then '.' :: padded 6 (n / 1000)
  else '.' :: padded 9 n

/-- The timestamp of an instant. -/
def render (i : Instant) : String :=
  let date := Date.ofDays (i.seconds / 86400)
  let time := (i.seconds % 86400).toNat
  let leap := 1000000000 ≤ i.nanos
  let second := time % 60 + (if leap then 1 else 0)
  let nanos := if leap then i.nanos - 1000000000 else i.nanos
  String.ofList (writeYear date.year ++ '-' :: padded 2 date.month ++ '-' :: padded 2 date.day
    ++ 'T' :: padded 2 (time / 3600) ++ ':' :: padded 2 (time / 60 % 60) ++ ':' :: padded 2 second
    ++ writeNanos nanos ++ ['Z'])

end Instant
end Armory.Time
