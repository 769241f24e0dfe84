import Armory.Text.Digits

/-! IP addresses as text. An address of version 4 is four decimal numbers without leading zeros; one of version 6
is eight groups of at most four hexadecimal digits, of which one run may be left out and the last two may be
written as an address of version 4. -/
namespace Armory.Net

/-- An IP address. -/
inductive IpAddress where
  | v4 (octets : List Nat)
  | v6 (groups : List Nat)
  deriving DecidableEq, Repr

namespace IpAddress

/-- The number that the leading digits of a text spell, and what follows them. -/
def readDigits (base : Nat) (s : List Char) : List Nat × List Char :=
  match s with
  | [] => ([], [])
  | c :: rest => match Text.digitValue? base c with
    | none => ([], c :: rest)
    | some d =>
      let (ds, after) := readDigits base rest
      (d :: ds, after)

/-- The value of digits in a base. -/
def valueOf (base : Nat) (ds : List Nat) : Nat := ds.foldl (fun n d => n * base + d) 0

/-- A decimal number below 256 without leading zeros. -/
def readOctet (s : List Char) : Option (Nat × List Char) :=
  let (ds, after) := readDigits 10 s
  let n := valueOf 10 ds
  if ds.isEmpty || 3 < ds.length || (ds.head? == some 0 && 1 < ds.length) || 255 < n then none
  else some (n, after)

/-- What follows a character. -/
def expect (c : Char) : List Char → Option (List Char)
  | d :: rest => if d = c then some rest else none
  | [] => none

/-- Four octets with points between them, and what follows. -/
def readV4 (s : List Char) : Option (List Nat × List Char) := do
  let (a, s) ← readOctet s
  let (b, s) ← readOctet (← expect '.' s)
  let (c, s) ← readOctet (← expect '.' s)
  let (d, s) ← readOctet (← expect '.' s)
  pure ([a, b, c, d], s)

/-- A group of one to four hexadecimal digits. -/
def readGroup (s : List Char) : Option (Nat × List Char) :=
  let (ds, after) := readDigits 16 s
  if ds.isEmpty || 4 < ds.length then none else some (valueOf 16 ds, after)

/-- At most `room` groups, the first one without a colon before it if `first`; whether an address of
version 4 ends them; and what follows. -/
def readGroups (first : Bool) : Nat → List Char → List Nat × Bool × List Char
  | 0, s => ([], false, s)
  | room + 1, s =>
    let start := if first then some s else expect ':' s
    match (if 0 < room then start.bind readV4 else none) with
    | some ([a, b, c, d], after) => ([a * 256 + b, c * 256 + d], true, after)
    | _ => match start.bind readGroup with
      | none => ([], false, s)
      | some (g, after) =>
        let (gs, mixed, rest) := readGroups false room after
        (g :: gs, mixed, rest)

/-- An address of version 6, and what follows. -/
def readV6 (s : List Char) : Option (List Nat × List Char) :=
  let (head, mixed, rest) := readGroups true 8 s
  if head.length = 8 then some (head, rest)
  else if mixed then none
  else do
    let rest ← expect ':' rest
    let rest ← expect ':' rest
    let (tail, _, rest) := readGroups true (7 - head.length) rest
    pure (head ++ List.replicate (8 - head.length - tail.length) 0 ++ tail, rest)

/-- The address that a whole text spells. -/
def parse? (s : String) : Option IpAddress :=
  match readV4 s.toList with
  | some (octets, rest) => if rest.isEmpty then some (.v4 octets) else none
  | none => match readV6 s.toList with
    | some (groups, rest) => if rest.isEmpty then some (.v6 groups) else none
    | none => none

end IpAddress
end Armory.Net
