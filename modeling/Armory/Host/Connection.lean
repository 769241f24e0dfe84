import Armory.Host
import Armory.Store.Location

/-! Connections to the databases of a host. What is done over a connection reaches the host when the connection
is kept; a database in memory is gone with it. -/
namespace Armory

/-- A database that has been opened. -/
structure Connection where
  /-- The place of its file, unless it lives in memory. -/
  file : Option Host.Place := none
  readOnly : Bool := false
  database : Store.Database := {}

namespace Connection

open Store

/-- The text of the error of a write to a database that is only read. -/
def readOnlyText : String := "attempt to write a readonly database"

/-- The connection with all tables in its database, or why there cannot be any. -/
def migrate (c : Connection) : Except String Connection :=
  if c.readOnly && !c.database.migrated then
    .error ("while executing migrations: " ++ Database.reportText 8 readOnlyText)
  else .ok { c with database := c.database.migrate }

/-- Definitions written into the database, and how many they are. -/
def upsertDefinitions (c : Connection) (xs : List Definition) : Except StoreError Nat × Connection :=
  if c.readOnly && !xs.isEmpty then (.error (Database.reported 8 readOnlyText), c)
  else
    let r := c.database.upsertDefinitions xs
    (r.1, { c with database := r.2 })

end Connection

namespace Host

open Store

/-- The connection to a database in a file. Here a path may lead up from a directory that does not exist. -/
def connectFile (h : Host) (l : Location) : Except ConnectError Connection :=
  let p := placeOf l.file
  match h.entry? p with
  | some .directory => .error .cannotOpen
  | some (.file (.database d)) => .ok ⟨some p, l.readOnly, d⟩
  | some (.file (.bytes b)) =>
    if !b.isEmpty then .error .notDatabase
    else if l.readOnly then .error (.reported 8 Connection.readOnlyText)
    else .ok ⟨some p, false, {}⟩
  | none =>
    if l.creates && !l.readOnly && h.isDirectory p.dropLast then .ok ⟨some p, false, {}⟩
    else .error .cannotOpen

/-- The connection to the database that a URL names. -/
def connect (h : Host) (url : String) : Except ConnectError Connection := do
  let l ← Location.ofUrl url
  if l.inMemory then .ok {} else h.connectFile l

/-- The host after a connection to one of its databases. -/
def keep (h : Host) (c : Connection) : Host :=
  match c.file with
  | some p => h.write p (.database c.database)
  | none => h

end Host
end Armory
