import Armory.Json.Writer

/-! Requests and responses of hypertext. Names of headers may be written in small or capital letters; where a
header is repeated, the first one counts. -/
namespace Armory.Http

/-- A request; a request without a body is told apart from one with an empty body only by its sender. -/
structure Request where
  method : String
  /-- The target, as it stands in the first line. -/
  target : String
  headers : List (String × String) := []
  body : String := ""
  deriving DecidableEq, Repr

namespace Request

/-- The first header of a name. -/
def header? (r : Request) (name : String) : Option String :=
  (r.headers.find? fun h => h.1.map Char.toLower == name).map (·.2)

/-- Whether a header value is plain: visible characters of ASCII, blanks and tabs. -/
def isPlain (value : String) : Bool :=
  value.toList.all fun c => c == '\t' || (32 ≤ c.toNat && c.toNat < 127)

/-- The first header of a name, if its value is plain. -/
def plainHeader? (r : Request) (name : String) : Option String := (r.header? name).filter isPlain

end Request

/-- What a response carries. -/
inductive Body where
  | empty
  | text (s : String)
  | json (value : Json)

/-- A body as it is sent. -/
def Body.render : Body → String
  | empty => ""
  | text s => s
  | json v => v.compact

/-- A response. -/
structure Response where
  status : Nat
  body : Body := .empty

/-- A response without its body, as it answers a request for the head only. -/
def Response.head (r : Response) : Response := { r with body := .empty }

/-- The response that nothing is at a path. -/
def Response.notFound : Response := { status := 404 }

/-- The response that a path has another method. -/
def Response.methodNotAllowed : Response := { status := 405 }

end Armory.Http
