import Armory.Bits
import Armory.Json.Value

/-! Taking values out of JSON. Nothing is converted between texts, numbers and booleans; whole numbers must
lie in the range that is asked for. A record is an object, or an array of its fields in order. An object may have
fields that are not known, which are ignored, but none that is known and written twice; an array may end early,
but holds nothing beyond the last field. A mapping is an object and keeps the last of repeated keys. -/
namespace Armory.Json

/-- The text of a string value. -/
def text? : Json → Option String
  | .str s => s
  | _ => none

/-- The value of a boolean. -/
def bool? : Json → Option Bool
  | .bool b => some b
  | _ => none

/-- A whole number that fits into the given count of bits, with a sign. -/
def intBits? (bits : Nat) : Json → Option Int
  | .num (.whole n) => if Bits.holdsSigned bits n then some n else none
  | _ => none

/-- A whole number that fits into the given count of bits, without a sign. -/
def natBits? (bits : Nat) : Json → Option Nat
  | .num (.whole (.ofNat n)) => if Bits.holds bits n then some n else none
  | _ => none

/-- A whole number of 32 bits without a sign. -/
def word? : Json → Option UInt32
  | .num (.whole (.ofNat n)) => if h : n < UInt32.size then some (UInt32.ofNatLT n h) else none
  | _ => none

/-- A whole number of 64 bits with a sign. -/
def long? : Json → Option Int := intBits? 64

/-- A whole number of 32 bits with a sign. -/
def int32? : Json → Option Int := intBits? 32

/-- The entries of an array, each taken by `f`. -/
def listOf? {α : Type} (f : Json → Option α) : Json → Option (List α)
  | .arr items => items.mapM f
  | _ => none

/-- `null` as none, any other value taken by `f`. -/
def nullable? {α : Type} (f : Json → Option α) : Json → Option (Option α)
  | .null => some none
  | v => (f v).map some

/-- The entries of a mapping in the order in which they are written, repetitions included. -/
def entries? {α : Type} (f : Json → Option α) : Json → Option (List (String × α))
  | .obj fields => fields.mapM fun (k, v) => do
    let k ← k
    let v ← f v
    pure (k, v)
  | _ => none

/-! ## Records -/

/-- The fields of a record by their names. -/
structure Record where
  fields : List (String × Json)
  /-- Whether the names are written, as in an object, or follow from the order, as in an array. -/
  named : Bool

/-- The keys of a record. -/
def Record.keys (r : Record) : List String := r.fields.map (·.1)

/-- The fields of an object, if its keys are texts and no known key is written twice, or of an array that has an
entry for each of the known keys at most. -/
def record? (known : List String) : Json → Option Record
  | .obj fields => do
    let fields ← fields.mapM fun (k, v) => k.map (·, v)
    if known.all fun k => (fields.filter (·.1 == k)).length ≤ 1 then pure ⟨fields, true⟩ else none
  | .arr items => if items.length ≤ known.length then some ⟨known.zip items, false⟩ else none
  | _ => none

/-- The value of a field, if it is there. -/
def Record.get? (r : Record) (key : String) : Option Json := r.fields.lookup key

/-- A field that must be there. -/
def Record.required {α : Type} (r : Record) (key : String) (f : Json → Option α) : Option α :=
  (r.get? key).bind f

/-- A field that may be absent, but whose value is never `null` unless `f` takes it. -/
def Record.orElse {α : Type} (r : Record) (key : String) (default : α) (f : Json → Option α) :
    Option α :=
  match r.get? key with
  | none => some default
  | some v => f v

/-- A field that may be absent or `null`. -/
def Record.optional {α : Type} (r : Record) (key : String) (f : Json → Option α) :
    Option (Option α) :=
  match r.get? key with
  | none => some none
  | some v => nullable? f v

/-- A field that may be `null`, and absent as well if the fields are named. -/
def Record.nullable {α : Type} (r : Record) (key : String) (f : Json → Option α) : Option (Option α) :=
  match r.get? key with
  | none => if r.named then some none else none
  | some v => nullable? f v

/-! ## Values of any shape -/

/-- Whether a decimal is small enough to be held as a floating-point number of 64 bits. -/
def fitsDouble (mantissa exponent : Int) : Bool :=
  mantissa == 0 ||
    (let digits : Int := (Nat.toDigits 10 mantissa.natAbs).length
     let order := digits + exponent
     order < 309 ||
       (order == 309 &&
         (let limit : Nat := Bits.size 1024 - Bits.size 970
          if 0 ≤ exponent then mantissa.natAbs * Nat.pow 10 exponent.toNat < limit
          else mantissa.natAbs < limit * Nat.pow 10 (-exponent).toNat)))

/-- A number as it is held in a value of any shape: whole if it fits into 64 bits, a decimal otherwise. -/
def heldNumber? : Number → Option Number
  | .whole n =>
    if Bits.holdsEither 64 n then some (.whole n)
    else if fitsDouble n 0 then some (.decimal n 0)
    else none
  | .decimal m e => if fitsDouble m e then some (.decimal m e) else none

mutual
/-- A value of any shape, nested at most to the given depth; all its strings and keys are texts. -/
def held? : Nat → Json → Option Json
  | _, .null => some .null
  | _, .bool b => some (.bool b)
  | _, .num n => (heldNumber? n).map .num
  | _, .str s => s.map text
  | 0, .arr _ => none
  | 0, .obj _ => none
  | depth + 1, .arr items => (heldItems? depth items).map .arr
  | depth + 1, .obj fields => (heldFields? depth fields).map .obj

/-- The entries of an array as values of any shape. -/
def heldItems? : Nat → List Json → Option (List Json)
  | _, [] => some []
  | depth, v :: rest => do
    let v ← held? depth v
    let rest ← heldItems? depth rest
    pure (v :: rest)

/-- The fields of an object as values of any shape; of repeated keys the last one stays. -/
def heldFields? : Nat → List (Text × Json) → Option (List (Text × Json))
  | _, [] => some []
  | depth, (k, v) :: rest => do
    let k ← k
    let v ← held? depth v
    let rest ← heldFields? depth rest
    pure (if rest.any (·.1 == some k) then rest else (some k, v) :: rest)
end

end Armory.Json
