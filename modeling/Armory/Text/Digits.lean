/-! Digits, and the numbers that they spell. Only the ASCII letters and figures are digits. -/
namespace Armory.Text

/-- A decimal digit. -/
def isDigit (c : Char) : Bool := '0' ≤ c && c ≤ '9'

/-- The value of a digit in a base up to sixteen, in small or capital letters. -/
def digitValue? (base : Nat) (c : Char) : Option Nat :=
  let n :=
    if '0' ≤ c ∧ c ≤ '9' then c.toNat - 48
    else if 'a' ≤ c ∧ c ≤ 'f' then c.toNat - 87
    else if 'A' ≤ c ∧ c ≤ 'F' then c.toNat - 55
    else base
  if n < base then some n else none

/-- The value of a hexadecimal digit. -/
def hexValue? (c : Char) : Option Nat := digitValue? 16 c

/-- The number that decimal digits spell. -/
def digitsValue (ds : List Char) : Nat := ds.foldl (fun n c => n * 10 + (c.toNat - 48)) 0

/-- The number that decimal digits spell, if there is at least one and nothing else. -/
def digits? (ds : List Char) : Option Nat :=
  if !ds.isEmpty && ds.all isDigit then some (digitsValue ds) else none

/-- The natural number that a text spells; a plus sign may stand before it. -/
def natural? (s : String) : Option Nat :=
  match s.toList with
  | '+' :: rest => digits? rest
  | s => digits? s

/-- The whole number that a text spells; a sign may stand before it. -/
def integer? (s : String) : Option Int :=
  match s.toList with
  | '-' :: rest => (digits? rest).map fun n => -(n : Int)
  | '+' :: rest => (digits? rest).map fun n => (n : Int)
  | s => (digits? s).map fun n => (n : Int)

end Armory.Text
