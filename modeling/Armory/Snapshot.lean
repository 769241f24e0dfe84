import Armory.Character
import Armory.Table

/-! Everything that the game reports about an account at one moment, before any item is looked up in the
catalog. -/
namespace Armory

/-- An entry of an inventory. -/
structure RawItem where
  itemHash : Hash
  instanceId : Option String
  bucketHash : Hash
  quantity : Nat
  transferFlags : Int
  deriving DecidableEq, Repr

/-- What the game reports about an item with an identity of its own. -/
structure InstanceData where
  power : Nat
  requiredLevel : Nat
  canEquip : Bool
  isEquipped : Bool
  deriving DecidableEq, Repr

/-- A character and what it carries. -/
structure CharacterSnapshot where
  character : Character
  /-- What the character wears, one entry for a bucket. -/
  equipment : List RawItem
  inventory : List RawItem
  deriving DecidableEq, Repr

/-- An account at one moment. -/
structure Snapshot where
  membership : Membership
  characters : List CharacterSnapshot
  /-- The vault and what belongs to the whole account. -/
  profileInventory : List RawItem
  currencies : List RawItem
  instances : Table String InstanceData

/-- The details of an entry, if it has an identity and details are reported for it. -/
def Snapshot.details? (s : Snapshot) (raw : RawItem) : Option InstanceData :=
  raw.instanceId.bind s.instances.get?

end Armory
