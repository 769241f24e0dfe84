import Armory.Net.Percent
import Armory.Store.Database
import Armory.Text.Quoted

/-! Where a database is. A database URL names a file, or no file at all for a database that lives in memory only
as long as its connection; parameters after a question mark say how it is opened. -/
namespace Armory.Store

/-- Why a database cannot be connected to. -/
inductive ConnectError where
  | unknownValue (key value : String)
  | unknownParameter (key : String)
  | badFileName
  /-- An error that the database itself reports. -/
  | reported (code : Nat) (text : String)
  deriving DecidableEq, Repr

namespace ConnectError

/-- The error of a file that cannot be opened. -/
def cannotOpen : ConnectError := reported 14 "unable to open database file"

/-- The error of a file that holds something else. -/
def notDatabase : ConnectError := reported 26 "file is not a database"

/-- The wording of an error. -/
def message : ConnectError → String
  | unknownValue key value =>
    "error with configuration: unknown value " ++ Text.quoted value ++ " for \x60" ++ key ++ "\x60"
  | unknownParameter key =>
    "error with configuration: unknown query parameter \x60" ++ key ++ "\x60 while parsing connection URL"
  | badFileName => "error with configuration: invalid utf-8 sequence"
  | reported code text => Database.reportText code text

end ConnectError

/-- How a database is opened. -/
structure Location where
  /-- The path of the file. -/
  file : String
  inMemory : Bool := false
  readOnly : Bool := false
  /-- Whether a missing file is made. -/
  creates : Bool := false
  deriving DecidableEq, Repr

namespace Location

/-- A text without its beginning, as often as it begins so. -/
def dropStarts (start : List Char) (s : List Char) : List Char :=
  match start with
  | [] => s
  | c :: cs => match h : Text.afterStart? (c :: cs) s with
    | none => s
    | some rest =>
      have : rest.length < s.length := by
        rw [Text.afterStart?_eq_some_iff.1 h, List.length_append, List.length_cons]
        omega
      dropStarts (c :: cs) rest
termination_by s.length

/-- A part of a form: plus signs are spaces, and bytes that spell no text are replaced. -/
def formText (s : List Char) : String :=
  let s := s.map fun c => if c = '+' then ' ' else c
  (Net.Percent.decode? s).getD "\uFFFD"

/-- The parameters of a URL. -/
def parameters (s : List Char) : List (String × String) :=
  ((Text.splitAt '&' s).filter (!·.isEmpty)).map fun p =>
    (formText (p.takeWhile (· != '=')), formText ((p.dropWhile (· != '=')).drop 1))

/-- The location after one parameter. -/
def step (l : Location) (p : String × String) : Except ConnectError Location :=
  match p with
  | ("mode", "ro") => .ok { l with readOnly := true }
  | ("mode", "rw") => .ok l
  | ("mode", "rwc") => .ok { l with creates := true }
  | ("mode", "memory") => .ok { l with inMemory := true }
  | ("cache", "private") | ("cache", "shared") => .ok l
  | ("immutable", "true") | ("immutable", "1") | ("immutable", "false") | ("immutable", "0") => .ok l
  | ("vfs", _) => .ok l
  | ("mode", v) => .error (.unknownValue "mode" v)
  | ("cache", v) => .error (.unknownValue "cache" v)
  | ("immutable", v) => .error (.unknownValue "immutable" v)
  | (key, _) => .error (.unknownParameter key)

/-- The location before its parameters. A database without a file name lives in memory. -/
def ofName (name : List Char) : Except ConnectError Location :=
  if name.isEmpty || name == ":memory:".toList then .ok { file := "", inMemory := true }
  else match Net.Percent.decode? name with
    | some file => .ok { file }
    | none => .error .badFileName

/-- The location that a URL names. -/
def ofUrl (url : String) : Except ConnectError Location := do
  let s := dropStarts "sqlite:".toList (dropStarts "sqlite://".toList url.toList)
  let l ← ofName (s.takeWhile (· != '?'))
  (parameters ((s.dropWhile (· != '?')).drop 1)).foldlM step l

end Location
end Armory.Store
