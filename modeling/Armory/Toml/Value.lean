/-! TOML values, and how the statements of a document build them up. A table remembers how it came to be,
because that decides what may still be added to it: a header may name a table that so far was only a part of
other paths, a dotted key may not reach into a table with a header of its own, and a table between braces is
closed. -/
namespace Armory

/-- How a table came to be. -/
inductive Toml.Origin where
  /-- Under a header of its own. -/
  | header
  /-- As a part of the path in a header. -/
  | path
  /-- As a part of a dotted key. -/
  | dotted
  /-- Between braces. -/
  | braces
  deriving DecidableEq, Repr

/-- A table, its entries in the order in which they were first named. -/
structure Toml.TableOf (α : Type) where
  origin : Toml.Origin
  entries : List (String × α) := []

/-- A value. Of floats, dates and times no more is kept than that they are such. -/
inductive Toml where
  | text (s : String)
  | int (n : Int)
  | float
  | bool (b : Bool)
  | moment
  | array (items : List Toml)
  | table (t : Toml.TableOf Toml)
  /-- Tables under repeated headers in double brackets. -/
  | tables (ts : List (Toml.TableOf Toml))

namespace Toml

/-- A table of values. -/
abbrev Table := TableOf Toml

/-- The last entry of a list changed by `f`. -/
def onLast? {α : Type} (f : α → Option α) : List α → Option (List α)
  | [] => none
  | [a] => (f a).map fun a => [a]
  | a :: rest => (onLast? f rest).map (a :: ·)

namespace Table

/-- The value of a key. -/
def get? (t : Table) (key : String) : Option Toml := t.entries.lookup key

/-- The table with the value of a key set. -/
def set (t : Table) (key : String) (v : Toml) : Table :=
  if (t.get? key).isSome then
    { t with entries := t.entries.map fun e => if e.1 == key then (key, v) else e }
  else { t with entries := t.entries ++ [(key, v)] }

/-- Whether a path of the given kind may lead through a table. -/
def admits (t : Table) (kind : Origin) : Bool :=
  match kind, t.origin with
  | _, .braces => false
  | .dotted, .header => false
  | _, _ => true

/-- The table with `f` applied at the end of a path; missing tables of the path are made, with the given
origin. A path through tables under repeated headers leads to the last of them. -/
def change? (kind : Origin) (f : Table → Option Table) : List String → Table → Option Table
  | [], t => f t
  | key :: rest, t => match t.get? key with
    | none => (change? kind f rest ⟨kind, []⟩).map fun child => t.set key (.table child)
    | some (.table child) =>
      if admits child kind then (change? kind f rest child).map fun child => t.set key (.table child)
      else none
    | some (.tables ts) => (onLast? (change? kind f rest) ts).map fun ts => t.set key (.tables ts)
    | some _ => none

/-- The table with a key, which is new, set at the end of a dotted path. A dotted key of several parts ends in
a table made by dotted keys, and a single key never does. -/
def assign? (t : Table) (path : List String) (key : String) (v : Toml) : Option Table :=
  t.change? .dotted (fun t =>
    if (t.origin == .dotted) == path.isEmpty || (t.get? key).isSome then none
    else some (t.set key v)) path

/-- The table with a new table under a header. -/
def openTable? (t : Table) (path : List String) (key : String) : Option Table :=
  t.change? .path (fun t => match t.get? key with
    | none => some (t.set key (.table ⟨.header, []⟩))
    | some (.table child) =>
      if child.origin == .path then some (t.set key (.table { child with origin := .header })) else none
    | some _ => none) path

/-- The table with one more table under a repeated header. -/
def openElement? (t : Table) (path : List String) (key : String) : Option Table :=
  t.change? .path (fun t => match t.get? key with
    | none => some (t.set key (.tables [⟨.header, []⟩]))
    | some (.tables ts) => some (t.set key (.tables (ts ++ [⟨.header, []⟩])))
    | some _ => none) path

/-- The value at the end of a path. -/
def find? : List String → Table → Option Toml
  | [], _ => none
  | [key], t => t.get? key
  | key :: rest, t => match t.get? key with
    | some (.table child) => find? rest child
    | _ => none

end Table

/-! ## Documents -/

/-- A key of one or more parts: a path and a last part. -/
structure Key where
  path : List String
  last : String
  deriving DecidableEq, Repr

/-- A statement of a document. -/
inductive Statement where
  | table (key : Key)
  | element (key : Key)
  | entry (key : Key) (value : Toml)

/-- A document as far as it has been read: its tables, and the path of the header that is in force. -/
structure Document where
  root : Table := ⟨.header, []⟩
  here : List String := []

/-- The document after a statement, or none if the statement contradicts an earlier one. -/
def Document.step? (d : Document) : Statement → Option Document
  | .table k => (d.root.openTable? k.path k.last).map fun root => ⟨root, k.path ++ [k.last]⟩
  | .element k => (d.root.openElement? k.path k.last).map fun root => ⟨root, k.path ++ [k.last]⟩
  | .entry k v =>
    (d.root.change? .path (fun t => t.assign? k.path k.last v) d.here).map fun root =>
      { d with root }

/-- The table that the statements of a document build. -/
def Table.ofStatements? (statements : List Statement) : Option Table :=
  (statements.foldlM Document.step? {}).map (·.root)

/-- The table between braces with given entries. -/
def Table.ofEntries? (entries : List (Key × Toml)) : Option Table :=
  entries.foldlM (fun t e => t.assign? e.1.path e.1.last e.2) ⟨.braces, []⟩

end Toml
end Armory
