import Armory.Store.Database
import Armory.Table
import Armory.Text.Blank

/-! What a program finds around it: variables with texts, and files. A file holds bytes or a database. Paths are
followed name by name, so that every name but the last has to be a directory. -/
namespace Armory

/-- Why a file cannot be read. -/
inductive FileFault where
  | missing
  | notDirectory
  | directory
  | notText
  deriving DecidableEq, Repr

/-- The wording of a fault. -/
def FileFault.message : FileFault → String
  | missing => "No such file or directory (os error 2)"
  | notDirectory => "Not a directory (os error 20)"
  | directory => "Is a directory (os error 21)"
  | notText => "stream did not contain valid UTF-8"

/-- What a file holds. -/
inductive FileContent where
  | bytes (b : ByteArray)
  | database (d : Store.Database)

/-- The surroundings of a program. -/
structure Host where
  environment : Table String String := .empty
  /-- Files by their places. -/
  files : Table (List String) FileContent := .empty
  /-- The places of directories, beside those that hold a file. -/
  directories : List (List String) := []

namespace Host

/-! ## Variables -/

/-- The text of a variable. A name that is empty or holds an equals sign names none. -/
def lookup? (h : Host) (name : String) : Option String :=
  if name.isEmpty || name.toList.contains '=' then none else h.environment.get? name

/-! ## Places -/

/-- A place among the files: the names that lead to it from the directory of the program. The names of a place
above that directory begin with as many double points as it is levels above, those of an absolute place with a
slash. -/
abbrev Place := List String

/-- The place that one more name of a path leads to. -/
def step (p : Place) (name : String) : Place :=
  if name.isEmpty || name == "." then p
  else if name != ".." then p ++ [name]
  else if p.all (· == "..") then p ++ [name]
  else if p == ["/"] then p
  else p.dropLast

/-- The place where a path starts. -/
def start (path : String) : Place := if path.toList.head? == some '/' then ["/"] else []

/-- The names of a path. -/
def names (path : String) : List String := (Text.splitAt '/' path.toList).map String.ofList

/-- The place that a path leads to by its names alone, whether they exist or not. -/
def placeOf (path : String) : Place := (names path).foldl step (start path)

/-- What a place holds. -/
inductive Entry where
  | file (content : FileContent)
  | directory

/-- Whether a place is a directory: one where paths start or one above it, one that is known, or one that holds a
known place. -/
def isDirectory (h : Host) (p : Place) : Bool :=
  p.all (· == "..") || p == ["/"] ||
    (h.directories ++ h.files.keys.map (·.dropLast)).any p.isPrefixOf

/-- What a place holds, if it holds anything. -/
def entry? (h : Host) (p : Place) : Option Entry :=
  if h.isDirectory p then some .directory else (h.files.get? p).map .file

/-- The place at the end of a path that goes on from a place. -/
def follow (h : Host) (p : Place) : List String → Except FileFault Place
  | [] => .ok p
  | name :: rest => match h.entry? p with
    | some .directory => follow h (step p name) rest
    | some (.file _) => .error .notDirectory
    | none => .error .missing

/-- The place that a path leads to; the last name of the path need not exist. -/
def place (h : Host) (path : String) : Except FileFault Place :=
  if path.isEmpty then .error .missing else h.follow (start path) (names path)

/-! ## Files -/

/-- Whether there is a file or a directory at the end of a path. -/
def pathExists (h : Host) (path : String) : Bool :=
  match h.place path with
  | .ok p => (h.entry? p).isSome
  | .error _ => false

/-- The text of a file. -/
def read (h : Host) (path : String) : Except FileFault String := do
  match h.entry? (← h.place path) with
  | none => .error .missing
  | some .directory => .error .directory
  | some (.file (.database _)) => .error .notText
  | some (.file (.bytes b)) => match String.fromUTF8? b with
    | some s => .ok s
    | none => .error .notText

/-- The host with the content of a file set or replaced. -/
def write (h : Host) (p : Place) (content : FileContent) : Host :=
  { h with files := h.files.insert p content }

end Host
end Armory
