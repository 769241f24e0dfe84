import Armory.Catalog
import Armory.Json.Decode
import Armory.Progression
import Armory.Snapshot

/-! The payloads of the game's replies, read into the types of this library. Missing parts count as empty;
parts that are there must be well-formed, also where nothing is made of them. -/
namespace Armory.Wire

/-- The object under `data`, if there is one. -/
def dataOf? {α : Type} (f : Json → Option α) (v : Json) : Option (Option α) := do
  let r ← v.record? ["data"]
  r.nullable "data" f

/-- The object under `data` of an optional field. -/
def wrapped {α : Type} (r : Json.Record) (key : String) (f : Json → Option α) :
    Option (Option α) :=
  (r.optional key (dataOf? f)).map Option.join

/-! ## Accounts -/

/-- The id of an account. -/
def accountId? (v : Json) : Option String := do
  let r ← v.record? ["membershipId"]
  r.orElse "membershipId" "" Json.text?

/-- A membership, all of whose fields may be absent. -/
def membership? (v : Json) : Option Membership := do
  let r ← v.record? ["displayName", "membershipType", "membershipId"]
  let displayName ← r.orElse "displayName" "" Json.text?
  let membershipType ← r.orElse "membershipType" 0 Json.int32?
  let membershipId ← r.orElse "membershipId" "" Json.text?
  pure { membershipId, membershipType, displayName }

/-- The memberships of a person, and the id of the account if there is one. -/
structure Memberships where
  memberships : List Membership
  user : Option String
  deriving DecidableEq, Repr

/-- The memberships that a payload lists. -/
def Memberships.ofJson? (v : Json) : Option Memberships := do
  let r ← v.record? ["destinyMemberships", "bungieNetUser"]
  let memberships ← r.orElse "destinyMemberships" [] (Json.listOf? membership?)
  let user ← r.optional "bungieNetUser" accountId?
  pure { memberships, user }

/-- A game profile and when it was last played. -/
structure LinkedProfile where
  membership : Membership
  lastPlayed : Time.Instant
  deriving DecidableEq, Repr

/-- A timestamp. -/
def instant? (v : Json) : Option Time.Instant := v.text?.bind Time.Instant.parse?

/-- The fields of a linked profile. -/
def LinkedProfile.fieldNames : List String :=
  ["displayName", "membershipType", "membershipId", "dateLastPlayed"]

/-- A linked profile; only its name may be absent. -/
def LinkedProfile.ofJson? (v : Json) : Option LinkedProfile := do
  let r ← v.record? LinkedProfile.fieldNames
  let displayName ← r.orElse "displayName" "" Json.text?
  let membershipType ← r.required "membershipType" Json.int32?
  let membershipId ← r.required "membershipId" Json.text?
  let lastPlayed ← r.required "dateLastPlayed" instant?
  pure ⟨{ membershipId, membershipType, displayName }, lastPlayed⟩

/-- The profiles linked to an account. -/
structure LinkedProfiles where
  profiles : List LinkedProfile
  user : Option String
  deriving DecidableEq, Repr

/-- The linked profiles that a payload lists. -/
def LinkedProfiles.ofJson? (v : Json) : Option LinkedProfiles := do
  let r ← v.record? ["profiles", "bnetMembership"]
  let profiles ← r.orElse "profiles" [] (Json.listOf? LinkedProfile.ofJson?)
  let user ← r.optional "bnetMembership" accountId?
  pure { profiles, user }

/-- The linked profile played last, the last one listed among equals. -/
def LinkedProfiles.latest? (l : LinkedProfiles) : Option LinkedProfile :=
  l.profiles.foldl (fun best p => match best with
    | none => some p
    | some b => if b.lastPlayed.notAfter p.lastPlayed then some p else some b) none

/-! ## Inventories -/

/-- An entry of an inventory as it is sent. -/
structure WireItem where
  itemHash : Hash
  instanceId : Option String
  bucketHash : Hash
  transferFlags : Int
  quantity : Nat
  deriving DecidableEq, Repr

/-- An entry, all of whose fields may be absent. -/
def wireItem? (v : Json) : Option WireItem := do
  let r ← v.record? ["itemHash", "itemInstanceId", "bucketHash", "transferStatus", "quantity"]
  let itemHash ← r.orElse "itemHash" 0 Json.word?
  let instanceId ← r.optional "itemInstanceId" Json.text?
  let bucketHash ← r.orElse "bucketHash" 0 Json.word?
  let transferFlags ← r.orElse "transferStatus" 0 Json.long?
  let quantity ← r.orElse "quantity" 0 (Json.natBits? 32)
  pure { itemHash, instanceId, bucketHash, transferFlags, quantity }

/-- The entry that is made of one that is sent; an empty instance id counts as none. -/
def WireItem.toRaw (w : WireItem) : RawItem where
  itemHash := w.itemHash
  instanceId := w.instanceId.filter (· != "")
  bucketHash := w.bucketHash
  quantity := w.quantity
  transferFlags := w.transferFlags

/-- The entries of an inventory. -/
def itemList? (v : Json) : Option (List WireItem) := do
  let r ← v.record? ["items"]
  r.orElse "items" [] (Json.listOf? wireItem?)

/-- A mapping; of repeated keys the last one counts. -/
def tableOf? {α : Type} (f : Json → Option α) (v : Json) : Option (Table String α) :=
  (v.entries? f).map Table.ofList

/-- A character; its id is left empty if it is not given. The class is the one that its hash names, or else
the one that its code names. -/
def character? (c : Catalog) (v : Json) : Option Character := do
  let r ← v.record? ["characterId", "membershipId", "membershipType", "dateLastPlayed", "classHash",
    "classType", "light", "levelProgression"]
  let id ← r.orElse "characterId" "" Json.text?
  let membershipId ← r.orElse "membershipId" "" Json.text?
  let membershipType ← r.orElse "membershipType" 0 Json.int32?
  let lastPlayed ← r.optional "dateLastPlayed" instant?
  let classHash ← r.orElse "classHash" 0 Json.word?
  let classCode ← r.orElse "classType" 0 Json.long?
  let light ← r.orElse "light" 0 (Json.natBits? 32)
  let level ← r.optional "levelProgression" fun v => do
    let r ← v.record? ["level"]
    r.orElse "level" 0 (Json.natBits? 32)
  let guardian := match c.guardianOf classHash with
    | .unknown => Guardian.ofCode classCode
    | known => known
  pure { id, membershipId, membershipType, guardian, level := level.getD 0, light,
         lastPlayed := lastPlayed.getD .epoch }

/-- The details of an item. -/
def instance? (v : Json) : Option InstanceData := do
  let r ← v.record? ["isEquipped", "canEquip", "equipRequiredLevel", "primaryStat"]
  let isEquipped ← r.orElse "isEquipped" false Json.bool?
  let canEquip ← r.orElse "canEquip" false Json.bool?
  let requiredLevel ← r.orElse "equipRequiredLevel" 0 (Json.natBits? 32)
  let power ← r.optional "primaryStat" fun v => do
    let r ← v.record? ["value"]
    r.orElse "value" 0 (Json.natBits? 32)
  pure { power := power.getD 0, requiredLevel, canEquip, isEquipped }

/-- The parts of a profile as they are sent. -/
structure ProfilePayload where
  owner : Option Membership
  inventory : List WireItem
  currencies : List WireItem
  characters : Table String Character
  carried : Table String (List WireItem)
  worn : Table String (List WireItem)
  instances : Table String InstanceData

/-- The profile that a payload describes. -/
def ProfilePayload.ofJson? (c : Catalog) (v : Json) : Option ProfilePayload := do
  let r ← v.record? ["profile", "profileInventory", "profileCurrencies", "characters",
    "characterInventories", "characterEquipment", "itemComponents"]
  let owner ← wrapped r "profile" fun v => do
    let r ← v.record? ["userInfo"]
    r.optional "userInfo" membership?
  let inventory ← wrapped r "profileInventory" itemList?
  let currencies ← wrapped r "profileCurrencies" itemList?
  let characters ← wrapped r "characters" (tableOf? (character? c))
  let carried ← wrapped r "characterInventories" (tableOf? itemList?)
  let worn ← wrapped r "characterEquipment" (tableOf? itemList?)
  let instances ← r.optional "itemComponents" fun v => do
    let r ← v.record? ["instances"]
    wrapped r "instances" (tableOf? instance?)
  pure { owner := owner.join, inventory := inventory.getD [], currencies := currencies.getD [],
         characters := characters.getD .empty, carried := carried.getD .empty,
         worn := worn.getD .empty, instances := instances.join.getD .empty }

/-- The entries that are sent under a key. -/
def rawItems (t : Table String (List WireItem)) (key : String) : List RawItem :=
  ((t.get? key).getD []).map (·.toRaw)

/-- The snapshot of a profile payload. What characters wear and carry is found under their keys; a
character without an id takes its key for it. -/
def ProfilePayload.toSnapshot (p : ProfilePayload) (requested : Membership) : Snapshot where
  membership := p.owner.getD requested
  characters := p.characters.entries.map fun (key, character) =>
    { character := if character.id = "" then { character with id := key } else character
      equipment := rawItems p.worn key
      inventory := rawItems p.carried key }
  profileInventory := p.inventory.map (·.toRaw)
  currencies := p.currencies.map (·.toRaw)
  instances := p.instances

/-! ## Progressions -/

/-- The number that a text of an optional plus sign and ASCII digits spells, if it is below a bound. -/
def parseNatBelow? (bound : Nat) (s : String) : Option Nat :=
  (Text.natural? s).filter (· < bound)

/-- A progression, all of whose fields may be absent. -/
def progression? (v : Json) : Option Progression := do
  let r ← v.record? ["progressionHash", "currentProgress", "level", "levelCap", "stepIndex",
    "progressToNextLevel", "nextLevelAt"]
  let number (key : String) : Option Nat := r.orElse key 0 (Json.natBits? 32)
  let progressionHash ← r.orElse "progressionHash" 0 Json.word?
  let currentProgress ← number "currentProgress"
  let level ← number "level"
  let levelCap ← number "levelCap"
  let stepIndex ← number "stepIndex"
  let progressToNextLevel ← number "progressToNextLevel"
  let nextLevelAt ← number "nextLevelAt"
  pure { progressionHash, currentProgress, level, levelCap, stepIndex, progressToNextLevel,
         nextLevelAt }

/-- The progressions of one character; keys that are no hashes are dropped. -/
def ownProgressions? (v : Json) : Option (Table Hash Progression) := do
  let r ← v.record? ["progressions"]
  let table ← r.orElse "progressions" .empty (tableOf? progression?)
  pure (Table.ofList (table.entries.filterMap fun (key, p) =>
    (parseNatBelow? UInt32.size key).map fun n => (UInt32.ofNat n, p)))

/-- The progressions that a payload lists. -/
def progressions? (v : Json) : Option Progressions := do
  let r ← v.record? ["characterProgressions"]
  let table ← wrapped r "characterProgressions" (tableOf? ownProgressions?)
  pure (table.getD .empty)

end Armory.Wire
