import Armory.Text.Blank

/-! The classes of characters, and which class may use an item. -/
namespace Armory

/-- A character class; items carry `unknown` when anyone may use them. -/
inductive Guardian where
  | titan | hunter | warlock | unknown
  deriving DecidableEq, Repr

namespace Guardian

/-- The class that a numeric code names; codes without a class name the unknown one. -/
def ofCode (code : Int) : Guardian :=
  if code = 0 then titan else if code = 1 then hunter else if code = 2 then warlock else unknown

/-- The numeric code of a class. -/
def code : Guardian → Int
  | titan => 0 | hunter => 1 | warlock => 2 | unknown => 3

/-- The name of a class. -/
def name : Guardian → String
  | titan => "titan" | hunter => "hunter" | warlock => "warlock" | unknown => "unknown"

/-- The class that a typed name means, whatever the case of its ASCII letters and the white space
around it. The unknown class cannot be named. -/
def ofName? (s : String) : Option Guardian :=
  let s := Text.lowerAscii (Text.trim s)
  if s = "titan" then some titan
  else if s = "hunter" then some hunter
  else if s = "warlock" then some warlock
  else none

/-- Whether an item restricted to the first class may be used by a character of the second. -/
def accepts (item character : Guardian) : Bool := item == unknown || item == character

end Guardian
end Armory
