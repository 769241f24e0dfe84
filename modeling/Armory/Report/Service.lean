import Armory.Report.Gear
import Armory.Service.Items
import Armory.Service.Loadouts
import Armory.Service.Ranks

/-! The results of the service's operations, as JSON. -/
namespace Armory

/-- An outcome as JSON; the parts that it does not have are left out. -/
def Outcome.toJson {α : Type} (f : α → Json) : Outcome α → Json
  | .found a => .record [("found", .bool true), ("result", f a)]
  | .notFound why => .record [("found", .bool false), ("explanation", .text why)]

namespace Service

/-- A place as JSON. -/
def Location.toJson : Location → Json
  | .character id g =>
    .record [("kind", .text "character"), ("character_id", .text id), ("class_type", .text g.name)]
  | .vault => .record [("kind", .text "vault")]

/-- A count as JSON. -/
def ItemCount.toJson (c : ItemCount) : Json :=
  .record [("item_name", .text c.itemName), ("item_hash", .nat c.itemHash.toNat),
    ("holdings", Json.list (fun h : Holding => .record [("location", h.location.toJson),
      ("quantity", .nat h.quantity)]) c.holdings),
    ("total", .nat c.total)]

/-- A summary of moved items as JSON. -/
def TransferSummary.toJson (s : TransferSummary) : Json :=
  .record [("item_name", .text s.itemName), ("destination", s.destination.toJson),
    ("requested", Json.ofOption Json.nat s.requested), ("planned_quantity", .nat s.planned),
    ("confirmed_quantity", .nat s.confirmed), ("only_had", Json.ofOption Json.nat s.onlyHad),
    ("failures", Json.list Transfer.Result.toJson s.failures)]

/-- Unloaded engrams as JSON. -/
def EngramUnload.toJson (u : EngramUnload) : Json :=
  .record [("found_quantity", .nat u.found), ("report", u.report.toJson)]

/-- A loadout that was put on, as JSON. -/
def EquippedLoadout.toJson (e : EquippedLoadout) : Json :=
  .record [("character_id", .text e.characterId), ("class_type", .text e.guardian.name),
    ("loadout", e.loadout.toJson), ("power_level", e.loadout.powerLevel),
    ("report", e.report.toJson)]

/-- A saved loadout as JSON. -/
def SavedLoadout.toJson (s : SavedLoadout) : Json :=
  .record [("name", .text s.name), ("status", .text s.status.name), ("buckets", .nat s.buckets)]

/-- A stored loadout that was put on, as JSON. -/
def RestoredLoadout.toJson (r : RestoredLoadout) : Json :=
  .record [("name", .text r.name), ("character_id", .text r.characterId),
    ("restored", r.restored.toJson), ("report", r.report.toJson)]

/-- The crucible ranks as JSON. -/
def CrucibleRanks.toJson (r : CrucibleRanks) : Json :=
  .record [("glory", Json.ofOption Ranking.toJson r.glory),
    ("valor", Json.ofOption Ranking.toJson r.valor)]

end Service
end Armory
