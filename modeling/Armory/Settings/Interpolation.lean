import Armory.Settings

/-! References to variables in a text. A reference is a name between `${` and the next `}`, and stands for the
text of that variable; everything else, a dollar sign without a brace included, stands for itself. What a
variable holds is not read again. -/
namespace Armory.Settings.Interpolation

/-- The text with every reference replaced. Where a reference has begun, the first argument holds the characters
of its name, the last one first. -/
def expandFrom (value? : String → Option String) :
    Option (List Char) → List Char → Except SettingsError (List Char)
  | none, [] => .ok []
  | none, '$' :: '\x7b' :: rest => expandFrom value? (some []) rest
  | none, c :: rest => (expandFrom value? none rest).map (c :: ·)
  | some _, [] => .error .openReference
  | some name, '\x7d' :: rest =>
    let name := String.ofList name.reverse
    match value? name with
    | none => .error (.unsetReference name)
    | some value => (expandFrom value? none rest).map (value.toList ++ ·)
  | some name, c :: rest => expandFrom value? (some (c :: name)) rest

/-- The names in the references of a text. Where a reference has begun, the first argument holds the characters of
its name, the last one first. -/
def namesFrom : Option (List Char) → List Char → List String
  | _, [] => []
  | none, '$' :: '\x7b' :: rest => namesFrom (some []) rest
  | none, _ :: rest => namesFrom none rest
  | some name, '\x7d' :: rest => String.ofList name.reverse :: namesFrom none rest
  | some name, c :: rest => namesFrom (some (c :: name)) rest

/-- The names in the references of a text. -/
def names (text : String) : List String := namesFrom none text.toList

/-- The text with every reference replaced by the text of its variable. -/
def expand (value? : String → Option String) (text : String) : Except SettingsError String :=
  (expandFrom value? none text.toList).map String.ofList

end Armory.Settings.Interpolation
