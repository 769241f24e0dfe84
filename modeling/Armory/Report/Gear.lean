import Armory.Gear.Equip
import Armory.Json.Value
import Armory.Loadout.Stored

/-! Items, loadouts and what became of moving them, as JSON. Absent values are written as `null`; buckets are
keys. -/
namespace Armory

/-- An item as JSON. -/
def Item.toJson (i : Item) : Json :=
  .record [
    ("item_hash", .nat i.itemHash.toNat),
    ("instance_id", Json.textOrNull i.instanceId),
    ("bucket_hash", .nat i.bucketHash.toNat),
    ("quantity", .nat i.quantity),
    ("power", .nat i.power),
    ("tier", .text i.tier.name),
    ("class_type", .text i.guardian.name),
    ("required_level", .nat i.requiredLevel),
    ("can_equip", .bool i.canEquip),
    ("is_equipped", .bool i.isEquipped),
    ("is_engram", .bool i.isEngram),
    ("transfer_status", .text i.transferStatus.name),
    ("owner", Json.textOrNull i.owner)]

/-- A loadout as JSON. -/
def Loadout.toJson (l : Loadout) : Json :=
  .record [("items", .record (l.entries.map fun e => (e.1.key, e.2.toJson)))]

/-- The power level of a loadout: an eighth of its total power, with as many digits after the point as it
needs and at least one. -/
def Loadout.powerLevel (l : Loadout) : Json :=
  let rec shortest (mantissa : Nat) : Nat → Json
    | 0 => .num (.decimal mantissa 0)
    | places + 1 =>
      if mantissa % 10 = 0 then shortest (mantissa / 10) places
      else .num (.decimal mantissa (-(places + 1 : Nat)))
  shortest (l.totalPower * 125) 3

namespace Transfer

/-- The name of a stage. -/
def Stage.name : Stage → String
  | .toVault => "to_vault"
  | .fromVault => "from_vault"

/-- How a move ended, as JSON. -/
def Outcome.toJson : Outcome → Json
  | .completed => .record [("status", .text "completed")]
  | .failed stage m =>
    .record [("status", .text "failed"), ("stage", .text stage.name), ("message", .text m)]

/-- The entry of a move as JSON. -/
def Result.toJson (r : Result) : Json :=
  .record [("item_hash", .nat r.itemHash.toNat), ("instance_id", Json.textOrNull r.instanceId),
    ("quantity", .nat r.quantity), ("outcome", r.outcome.toJson)]

/-- A batch of moves as JSON. -/
def Report.toJson (r : Report) : Json :=
  .record [("planned_quantity", .nat r.planned), ("results", Json.list Result.toJson r.results)]

end Transfer

namespace Equip

/-- How a call ended, as JSON. -/
def Outcome.toJson : Outcome → Json
  | .completed => .record [("status", .text "completed")]
  | .failed m => .record [("status", .text "failed"), ("message", .text m)]

/-- A swap as JSON. -/
def Swap.toJson (s : Swap) : Json :=
  .record [("character_id", .text s.characterId), ("bucket", .text s.bucket.key),
    ("displaced_item_hash", .nat s.displaced.toNat),
    ("substitute_item_hash", Json.ofOption (fun h : Hash => .nat h.toNat) s.substitute),
    ("outcome", Json.ofOption Outcome.toJson s.outcome)]

/-- Items put on with one call, as JSON. -/
def Batch.toJson (b : Batch) : Json :=
  .record [("item_ids", Json.list Json.int b.itemIds), ("outcome", b.outcome.toJson)]

/-- What became of a loadout, as JSON. -/
def Report.toJson (r : Report) : Json :=
  .record [("evictions", r.evictions.toJson), ("swaps", Json.list Swap.toJson r.swaps),
    ("transfers", r.transfers.toJson), ("equip", Json.ofOption Batch.toJson r.equip)]

end Equip

/-- Buckets as a JSON list. -/
def bucketsToJson (bs : List Bucket) : Json := Json.list (fun b => .text b.key) bs

/-- A restored loadout as JSON. -/
def Restored.toJson (r : Restored) : Json :=
  .record [("loadout", r.loadout.toJson), ("unresolved", bucketsToJson r.unresolved),
    ("substituted", bucketsToJson r.substituted)]

namespace Ranking

/-- A rank as JSON. -/
def toJson (r : Ranking) : Json :=
  .record [("track", .text r.track.name), ("rank", .text r.rank), ("step_index", .nat r.stepIndex),
    ("level", .nat r.level), ("level_cap", .nat r.levelCap),
    ("progress_to_next_level", .nat r.progressToNextLevel),
    ("next_level_at", .nat r.nextLevelAt), ("points_to_next_rank", .nat r.pointsToNextRank),
    ("standing", .text r.standing.name)]

end Ranking
end Armory
