import Armory.Json.Value
import Armory.Store.Database

/-! The health of a running service. It is ready if its database answers and item definitions are loaded;
without them no item name means anything. -/
namespace Armory

/-- What is known of a running service. -/
structure Health where
  /-- Why the database does not answer, if it does not. -/
  databaseFault : Option String
  definitions : Nat
  clients : Nat
  deriving DecidableEq, Repr

namespace Health

/-- The health of a service with a database. -/
def ofDatabase (d : Store.Database) (definitions clients : Nat) : Health where
  databaseFault := match d.ping with
    | .ok _ => none
    | .error e => some e.detail
  definitions
  clients

/-- Whether the database answers. -/
def hasDatabase (h : Health) : Bool := h.databaseFault.isNone

/-- Whether there are item definitions. -/
def hasDefinitions (h : Health) : Bool := h.definitions != 0

/-- Whether the service can do its work. -/
def isReady (h : Health) : Bool := h.hasDatabase && h.hasDefinitions

/-- The word for a part that is or is not ready. -/
def word (ready : Bool) : Json := .text (if ready then "ready" else "degraded")

/-- One part of a report. -/
def part (ready : Bool) (detail : String) : Json :=
  .record [("status", word ready), ("detail", .text detail)]

/-- The report, as JSON. -/
def toJson (h : Health) : Json :=
  .record [
    ("status", word h.isReady),
    ("service", part true "warmind-server runtime initialized"),
    ("database", part h.hasDatabase (match h.databaseFault with
      | none => "database query succeeded"
      | some fault => "database query failed: " ++ fault)),
    ("manifest", part h.hasDefinitions (if h.hasDefinitions
      then toString h.definitions ++ " item definitions loaded"
      else "no item definitions loaded; run \x60warmind manifest import\x60")),
    ("remote", part true (toString h.clients ++ " outbound client(s) in rotation"))]

end Health
end Armory
