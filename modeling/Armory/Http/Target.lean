import Armory.Text.Blank

/-! The target of a request: its path, cut into segments at the slashes. -/
namespace Armory.Http.Target

/-- A character of a scheme. -/
def isSchemeChar (c : Char) : Bool := c.isAlphanum || c == '+' || c == '-' || c == '.'

/-- A target without scheme and authority, if it begins with them. -/
def withoutAuthority (s : List Char) : List Char :=
  match Text.afterStart? [':', '/', '/'] (s.dropWhile isSchemeChar) with
  | some rest => rest.dropWhile fun c => c != '/' && c != '?' && c != '#'
  | none => s

/-- The path of a target. -/
def path (target : String) : List Char :=
  (withoutAuthority target.toList).takeWhile fun c => c != '?' && c != '#'

/-- The segments of a path, each as it is written; none if it does not begin with a slash. -/
def segments? (target : String) : Option (List (List Char)) :=
  match path target with
  | '/' :: rest => some (Text.splitAt '/' rest)
  | _ => none

end Armory.Http.Target
