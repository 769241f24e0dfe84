/-! JSON values. Two things that a reader of JSON must decide are left open here and settled when a value
is used: a string token may spell half of a surrogate pair, so that it names no text, and a number may
be too large for the type that is asked of it. -/
namespace Armory

/-- A number token: a whole number, or one written with a fraction or an exponent, which stands for
`mantissa * 10 ^ exponent`. -/
inductive Json.Number where
  | whole (value : Int)
  | decimal (mantissa exponent : Int)
  deriving Repr, DecidableEq

/-- The text that a string token spells, or none if it holds half of a surrogate pair. -/
abbrev Json.Text := Option String

/-- A JSON value; the fields of an object are in the order in which they were written. -/
inductive Json where
  | null
  | bool (b : Bool)
  | num (n : Json.Number)
  | str (s : Json.Text)
  | arr (items : List Json)
  | obj (fields : List (Json.Text × Json))
  deriving Repr

namespace Json

/-- A string value that spells the given text. -/
def text (s : String) : Json := .str (some s)

/-- A whole number. -/
def int (n : Int) : Json := .num (.whole n)

/-- A natural number. -/
def nat (n : Nat) : Json := .num (.whole n)

/-- An object with the given fields in the given order. -/
def record (fields : List (String × Json)) : Json :=
  .obj (fields.map fun f => (some f.1, f.2))

/-- The given value, or `null` for none. -/
def ofOption {α : Type} (f : α → Json) : Option α → Json
  | some a => f a
  | none => .null

/-- An optional text, `null` for none. -/
def textOrNull : Option String → Json := ofOption text

/-- The list of the given values. -/
def list {α : Type} (f : α → Json) (xs : List α) : Json := .arr (xs.map f)

end Json
end Armory
