import Armory.Item.Filter
import Armory.Json.Lenient
import Armory.Profile
import Armory.Loadout.Stored
import Armory.Progression

/-! Scenarios written as JSON: items, characters, catalogs and profiles. -/
namespace Armory.Scenario

/-- A tier by its name. -/
def tierOf : Json → Tier :=
  Json.asNamed Tier.name [.unknown, .currency, .common, .uncommon, .rare, .legendary, .exotic] .unknown

/-- A class by its name. -/
def guardianOf : Json → Guardian := Json.asNamed Guardian.name [.titan, .hunter, .warlock] .unknown

/-- A bucket by its key. -/
def bucketOf (v : Json) : Bucket := (Bucket.ofKey? v.asText).getD .kinetic

/-- A transfer status by its name. -/
def statusOf : Json → TransferStatus :=
  Json.asNamed TransferStatus.name
    [.canTransfer, .itemIsEquipped, .notTransferrable, .noRoomInDestination] .canTransfer

/-- An item. -/
def itemOf (v : Json) : Item where
  itemHash := v.wordAt "item_hash"
  instanceId := (v.get "instance_id").text?
  bucketHash := v.wordAt "bucket_hash"
  quantity := v.natAt "quantity"
  power := v.natAt "power"
  tier := tierOf (v.get "tier")
  guardian := guardianOf (v.get "class_type")
  requiredLevel := v.natAt "required_level"
  canEquip := v.boolAt "can_equip"
  isEquipped := v.boolAt "is_equipped"
  isEngram := v.boolAt "is_engram"
  transferStatus := statusOf (v.get "transfer_status")
  owner := (v.get "owner").text?

/-- A filter, as its name and its argument. -/
def filterOf (v : Json) : Filter :=
  let (name, x) := v.asPair Json.asText id
  match name with
  | "item_hash" => .itemHash x.asWord
  | "bucket_hash" => .bucketHash x.asWord
  | "tier" => .tier (tierOf x)
  | "not_tier" => .notTier (tierOf x)
  | "class_compatible" => .usableBy (guardianOf x)
  | "max_required_level" => .maxRequiredLevel x.asNat
  | "owned_by" => .ownedBy x.text?
  | "instance_id" => .instanceId x.asText
  | "engram" => .engram x.asBool
  | _ => .equippable x.asBool

/-- A loadout. -/
def loadoutOf (v : Json) : Loadout :=
  Loadout.ofList ((v.get "items").asFields.map fun (k, i) => (bucketOf (.text k), itemOf i))

/-- A stored loadout. -/
def storedOf (v : Json) : StoredLoadout := (StoredLoadout.ofJson? v).getD .empty

/-! ## Characters and profiles -/

/-- A character. -/
def characterOf (v : Json) : Character where
  id := v.textAt "id"
  membershipId := v.textAt "membership_id"
  membershipType := v.intAt "membership_type"
  guardian := guardianOf (v.get "class_type")
  level := v.natAt "level"
  light := v.natAt "light"
  lastPlayed := (Time.Instant.parse? (v.textAt "last_played")).getD .epoch

/-- A membership. -/
def membershipOf (v : Json) : Membership where
  membershipId := v.textAt "membership_id"
  membershipType := v.intAt "membership_type"
  displayName := v.textAt "display_name"

/-- An account. -/
def accountOf (v : Json) : Account where
  accountId := v.textAt "account_id"
  membership := membershipOf (v.get "membership")

/-- An item as the game reports it. -/
def rawItemOf (v : Json) : RawItem where
  itemHash := v.wordAt "item_hash"
  instanceId := (v.get "instance_id").text?
  bucketHash := v.wordAt "bucket_hash"
  quantity := v.natAt "quantity"
  transferFlags := v.intAt "transfer_status"

/-- The details of an instance. -/
def instanceOf (v : Json) : InstanceData where
  power := v.natAt "power"
  requiredLevel := v.natAt "required_level"
  canEquip := v.boolAt "can_equip"
  isEquipped := v.boolAt "is_equipped"

/-- A snapshot. -/
def snapshotOf (v : Json) : Snapshot where
  membership := membershipOf (v.get "membership")
  characters := v.listAt (fun c =>
    { character := characterOf (c.get "character")
      equipment := c.listAt rawItemOf "equipment"
      inventory := c.listAt rawItemOf "inventory" }) "characters"
  profileInventory := v.listAt rawItemOf "profile_inventory"
  currencies := v.listAt rawItemOf "currencies"
  instances := Table.ofList ((v.get "instances").asFields.map fun (id, d) => (id, instanceOf d))

/-- A progression. -/
def progressionOf (v : Json) : Progression where
  progressionHash := v.wordAt "progression_hash"
  currentProgress := v.natAt "current_progress"
  level := v.natAt "level"
  levelCap := v.natAt "level_cap"
  stepIndex := v.natAt "step_index"
  progressToNextLevel := v.natAt "progress_to_next_level"
  nextLevelAt := v.natAt "next_level_at"

/-- The progressions of characters, by decimal hashes. -/
def progressionsOf (v : Json) : Progressions :=
  Table.ofList (v.asFields.map fun (id, own) => (id, Table.ofList (own.asFields.map fun (h, p) =>
    (UInt32.ofNat (h.toNat?.getD 0), progressionOf p))))

/-! ## Catalogs -/

/-- A definition. -/
def definitionOf (v : Json) : Definition where
  itemHash := v.wordAt "item_hash"
  name := v.textAt "name"
  tier := tierOf (v.get "tier")
  guardian := guardianOf (v.get "class_type")
  bucketHash := v.wordAt "bucket_hash"

/-- The pairs of a field, if it is there, or else the given ones. -/
def pairsOr {α β : Type} (default : List (α × β)) (f : Json → α) (g : Json → β) (v : Json) :
    List (α × β) :=
  (v.given? fun v => v.asList.map (Json.asPair f g)).getD default

/-- A catalog; what is left out is that of the standard catalog. -/
def catalogOf (v : Json) : Catalog :=
  let standard : Catalog.Source := {}
  let source : Catalog.Source :=
    { definitions := v.listAt definitionOf "definitions"
      engramHashes := v.listAt Json.asWord "engram_hashes"
      bucketHashes := pairsOr standard.bucketHashes Json.asWord bucketOf (v.get "bucket_hashes")
      classHashes := pairsOr standard.classHashes Json.asWord guardianOf (v.get "class_hashes")
      vaultBucketHash := (v.get "vault_bucket_hash").asWord?.getD standard.vaultBucketHash
      itemAliases := pairsOr standard.itemAliases Json.asText Json.asText (v.get "item_name_aliases")
      classAliases := pairsOr standard.classAliases Json.asText Json.asText
        (v.get "class_name_aliases") }
  Catalog.ofSource (if v.boolAt "engrams_from_names" then source.withNamedEngrams else source)

/-- A profile: that of a snapshot, or one that consists of characters and items. -/
def profileOf (c : Catalog) (v : Json) : Profile :=
  match v.get "snapshot" with
  | .null => Profile.ofItems (v.listAt characterOf "characters") (v.listAt itemOf "items")
  | s => Profile.assemble (snapshotOf s) c (v.boolAt "require_instance_data")

end Armory.Scenario
