import Armory.Json.Decode

/-! Lenient reading of JSON, for values that are known to be well formed: what is absent or has another shape
counts as `null`, as zero or as empty, so reading never fails. -/
namespace Armory.Json

/-- The field of an object, or `null`. -/
def get (v : Json) (key : String) : Json :=
  match v with
  | .obj fields => ((fields.find? (·.1 == some key)).map (·.2)).getD .null
  | _ => .null

/-- Whether a value is `null`. -/
def isNull : Json → Bool
  | .null => true
  | _ => false

/-- A value taken by `f`, unless it is `null`. -/
def given? {α : Type} (f : Json → α) (v : Json) : Option α := if v.isNull then none else some (f v)

/-- A text, or the empty one. -/
def asText (v : Json) : String := v.text?.getD ""

/-- A whole number of any size. -/
def asInt? : Json → Option Int
  | .num (.whole n) => some n
  | _ => none

/-- A whole number of any size, or zero. -/
def asInt (v : Json) : Int := v.asInt?.getD 0

/-- A natural number. -/
def asNat? (v : Json) : Option Nat := v.asInt?.map (·.toNat)

/-- A natural number, or zero. -/
def asNat (v : Json) : Nat := v.asInt.toNat

/-- A number of 32 bits. -/
def asWord? (v : Json) : Option UInt32 := v.asNat?.map UInt32.ofNat

/-- A number of 32 bits, or zero. -/
def asWord (v : Json) : UInt32 := UInt32.ofNat v.asNat

/-- A boolean, or false. -/
def asBool (v : Json) : Bool := v.bool?.getD false

/-- The entries of an array. -/
def asList : Json → List Json
  | .arr items => items
  | _ => []

/-- The fields of an object. -/
def asFields : Json → List (String × Json)
  | .obj fields => fields.map fun f => (f.1.getD "", f.2)
  | _ => []

/-- An array of two entries. -/
def asPair {α β : Type} (f : Json → α) (g : Json → β) (v : Json) : α × β :=
  match v with
  | .arr [a, b] => (f a, g b)
  | _ => (f .null, g .null)

/-- The value of a name in a list of named values. -/
def asNamed {α : Type} (name : α → String) (all : List α) (default : α) (v : Json) : α :=
  (all.find? fun a => some (name a) == v.text?).getD default

/-- The text of a field. -/
def textAt (v : Json) (key : String) : String := (v.get key).asText

/-- The text of a field, or a default. -/
def textOr (v : Json) (key default : String) : String := (v.get key).text?.getD default

/-- The whole number of a field. -/
def intAt (v : Json) (key : String) : Int := (v.get key).asInt

/-- The natural number of a field. -/
def natAt (v : Json) (key : String) : Nat := (v.get key).asNat

/-- The 32-bit number of a field. -/
def wordAt (v : Json) (key : String) : UInt32 := (v.get key).asWord

/-- The boolean of a field. -/
def boolAt (v : Json) (key : String) : Bool := (v.get key).asBool

/-- The entries of a field, each taken by `f`. -/
def listAt {α : Type} (f : Json → α) (v : Json) (key : String) : List α := (v.get key).asList.map f

end Armory.Json
