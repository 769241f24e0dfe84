/-! Media types, as in the header `content-type`: a type, a subtype with an optional suffix after a plus sign,
and parameters. -/
namespace Armory.Http

/-- A media type without its parameters, in small letters. -/
structure MediaType where
  type : String
  subtype : String
  suffix : Option String
  deriving DecidableEq, Repr

namespace MediaType

/-- The marks that a token may hold beside letters and digits. -/
def marks : List Char :=
  ['!', '#', '$', '%', '&', '\'', '+', '-', '.', '^', '_', '\x60', '|', '~']

/-- A character of a token. -/
def isTokenChar (c : Char) : Bool := c.isAlphanum || marks.contains c

/-- A character that may stand between quotes. -/
def isQuotable (c : Char) : Bool := 31 < c.toNat && c.toNat != 127

/-- What follows a quoted value, or none if it is not closed. A value is not empty: a quote that comes first
belongs to it. -/
def afterQuoted? (isEmpty : Bool) : List Char → Option (List Char)
  | [] => none
  | '"' :: rest => if isEmpty then afterQuoted? false rest else some rest
  | '\\' :: c :: rest => if isQuotable c then afterQuoted? false rest else none
  | c :: rest => if isQuotable c then afterQuoted? false rest else none

/-- Blanks up to the next parameter or the end; none if anything else stands there. -/
def afterBlanks? : List Char → Option (List Char)
  | [] => some []
  | ';' :: rest => some rest
  | ' ' :: rest => afterBlanks? rest
  | _ => none

/-- What follows the value of a parameter and its semicolon. -/
def afterValue? : List Char → Option (List Char)
  | '"' :: rest => (afterQuoted? true rest).bind afterBlanks?
  | s => match s.dropWhile isTokenChar with
    | [] => some []
    | ';' :: rest => if s.head? = some ';' then none else some rest
    | _ => none

/-- Whether a text is a list of parameters, each `name=value`. The first argument bounds their number; the
length of the text is always enough. -/
def areParameters : Nat → List Char → Bool
  | _, [] => true
  | 0, _ => false
  | fuel + 1, ' ' :: rest => areParameters fuel rest
  | fuel + 1, s => match s.dropWhile isTokenChar with
    | '=' :: rest => s.head? != some '=' &&
      ((afterValue? rest).map (areParameters fuel)).getD false
    | _ => false

/-- A token in small letters. -/
def token (s : List Char) : String := String.ofList (s.map Char.toLower)

/-- The media type with a type and a subtype; the last plus sign, unless it comes first, begins the suffix. -/
def ofNames (type subtype : List Char) : MediaType :=
  match subtype.reverse.dropWhile (· != '+') with
  | '+' :: front@(_ :: _) =>
    ⟨token type, token front.reverse, some (token (subtype.reverse.takeWhile (· != '+')).reverse)⟩
  | _ => ⟨token type, token subtype, none⟩

/-- The media type that a text names. -/
def parse? (s : String) : Option MediaType :=
  let type := s.toList.takeWhile isTokenChar
  match s.toList.dropWhile isTokenChar with
  | '/' :: rest =>
    let subtype := rest.takeWhile isTokenChar
    if type.isEmpty || subtype.isEmpty then none
    else match rest.dropWhile isTokenChar with
      | [] => some (ofNames type subtype)
      | c :: rest =>
        if (c == ';' || c == ' ') && areParameters rest.length rest then some (ofNames type subtype)
        else none
  | _ => none

/-- Whether content of a type is JSON. -/
def isJson (m : MediaType) : Bool :=
  m.type == "application" && (m.subtype == "json" || m.suffix == some "json")

end MediaType
end Armory.Http
