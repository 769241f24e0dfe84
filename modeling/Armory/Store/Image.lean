import Armory.Json.Decode
import Armory.Json.Reader
import Armory.Json.Writer
import Armory.Store.Database

/-! Databases as texts, so that a file can hold one: a JSON record of their rows. -/
namespace Armory.Store

/-- A row of the table of loadouts, as JSON. -/
def LoadoutRow.toJson (r : LoadoutRow) : Json := .arr [.text r.account, .text r.name, .text r.text]

/-- The row of the table of loadouts that a JSON value describes. -/
def LoadoutRow.ofJson? : Json → Option LoadoutRow
  | .arr [account, name, text] => do pure ⟨← account.text?, ← name.text?, ← text.text?⟩
  | _ => none

/-- A row of the table of definitions, as JSON. -/
def DefinitionRow.toJson (r : DefinitionRow) : Json :=
  .arr [.int r.itemHash, .text r.name, .int r.tier, .int r.guardian, .int r.bucketHash]

/-- The row of the table of definitions that a JSON value describes. -/
def DefinitionRow.ofJson? : Json → Option DefinitionRow
  | .arr [itemHash, name, tier, guardian, bucketHash] => do
    pure ⟨← itemHash.long?, ← name.text?, ← tier.long?, ← guardian.long?, ← bucketHash.long?⟩
  | _ => none

/-- The kind with a name. -/
def NameKind.ofName? (s : String) : Option NameKind :=
  [NameKind.item, .guardian, .loadout].find? (·.name == s)

/-- An entry of the log that a JSON value describes. -/
def logEntry? : Json → Option (NameKind × String)
  | .arr [kind, value] => do pure (← kind.text?.bind NameKind.ofName?, ← value.text?)
  | _ => none

namespace Database

/-- The text of a database. -/
def encode (d : Database) : String :=
  (Json.record [
    ("migrated", .bool d.migrated),
    ("loadouts", Json.list LoadoutRow.toJson d.loadouts),
    ("definitions", Json.list DefinitionRow.toJson d.definitions),
    ("log", Json.list (fun e => .arr [.text e.1.name, .text e.2]) d.log)]).compact

/-- The database of a text. -/
def decode? (s : String) : Option Database := do
  let r ← (← Json.parse? s).record? ["migrated", "loadouts", "definitions", "log"]
  pure {
    migrated := ← r.required "migrated" Json.bool?
    loadouts := ← r.required "loadouts" (Json.listOf? LoadoutRow.ofJson?)
    definitions := ← r.required "definitions" (Json.listOf? DefinitionRow.ofJson?)
    log := ← r.required "log" (Json.listOf? logEntry?) }

end Database
end Armory.Store
