import Armory.Catalog
import Armory.Profile
import Armory.Progression
import Armory.Report.Gear

/-! Characters, accounts, profiles and snapshots, as JSON. -/
namespace Armory

/-- A definition as JSON. -/
def Definition.toJson (d : Definition) : Json :=
  .record [("item_hash", .nat d.itemHash.toNat), ("name", .text d.name), ("tier", .text d.tier.name),
    ("class_type", .text d.guardian.name), ("bucket_hash", .nat d.bucketHash.toNat)]

/-- A character as JSON. -/
def Character.toJson (c : Character) : Json :=
  .record [("id", .text c.id), ("membership_id", .text c.membershipId),
    ("membership_type", .int c.membershipType), ("class_type", .text c.guardian.name),
    ("level", .nat c.level), ("light", .nat c.light), ("last_played", .text c.lastPlayed.render)]

/-- A membership as JSON. -/
def Membership.toJson (m : Membership) : Json :=
  .record [("membership_id", .text m.membershipId), ("membership_type", .int m.membershipType),
    ("display_name", .text m.displayName)]

/-- An account as JSON. -/
def Account.toJson (a : Account) : Json :=
  .record [("account_id", .text a.accountId), ("membership", a.membership.toJson)]

/-- What a character has in its buckets, as JSON. -/
def Equipment.toJson (e : Equipment) : Json :=
  .record (e.entries.map fun (b, c) => (b.key, .record [
    ("equipped", Json.ofOption Item.toJson c.equipped),
    ("unequipped", Json.list Item.toJson c.unequipped)]))

/-- A profile as JSON. -/
def Profile.toJson (p : Profile) : Json :=
  .record [("membership_id", .text p.membershipId), ("membership_type", .int p.membershipType),
    ("characters", Json.list Character.toJson p.characters),
    ("all_items", Json.list Item.toJson p.items),
    ("loadouts", .record (p.loadouts.entries.map fun (id, l) => (id, l.toJson))),
    ("equipments", .record (p.equipments.entries.map fun (id, e) => (id, e.toJson)))]

/-- An item as the game reports it, as JSON. -/
def RawItem.toJson (r : RawItem) : Json :=
  .record [("item_hash", .nat r.itemHash.toNat), ("instance_id", Json.textOrNull r.instanceId),
    ("bucket_hash", .nat r.bucketHash.toNat), ("quantity", .nat r.quantity),
    ("transfer_status", .int r.transferFlags)]

/-- The details of an instance as JSON. -/
def InstanceData.toJson (d : InstanceData) : Json :=
  .record [("power", .nat d.power), ("required_level", .nat d.requiredLevel),
    ("can_equip", .bool d.canEquip), ("is_equipped", .bool d.isEquipped)]

/-- A character with its items as the game reports them, as JSON. -/
def CharacterSnapshot.toJson (c : CharacterSnapshot) : Json :=
  .record [("character", c.character.toJson), ("equipment", Json.list RawItem.toJson c.equipment),
    ("inventory", Json.list RawItem.toJson c.inventory)]

/-- A snapshot as JSON, the characters in the order of their ids. -/
def Snapshot.toJson (s : Snapshot) : Json :=
  .record [("membership", s.membership.toJson),
    ("characters", Json.list CharacterSnapshot.toJson
      (s.characters.mergeSort fun a b => decide (a.character.id ≤ b.character.id))),
    ("profile_inventory", Json.list RawItem.toJson s.profileInventory),
    ("currencies", Json.list RawItem.toJson s.currencies),
    ("instances", .record (s.instances.entries.map fun (id, d) => (id, d.toJson)))]

/-- A progression as JSON. -/
def Progression.toJson (p : Progression) : Json :=
  .record [("progression_hash", .nat p.progressionHash.toNat),
    ("current_progress", .nat p.currentProgress), ("level", .nat p.level),
    ("level_cap", .nat p.levelCap), ("step_index", .nat p.stepIndex),
    ("progress_to_next_level", .nat p.progressToNextLevel), ("next_level_at", .nat p.nextLevelAt)]

/-- The progressions of characters as JSON, by decimal hashes. -/
def Progressions.toJson (ps : Progressions) : Json :=
  .record (ps.entries.map fun (id, own) =>
    (id, .record (own.entries.map fun (h, p) => (toString h.toNat, p.toJson))))

end Armory
