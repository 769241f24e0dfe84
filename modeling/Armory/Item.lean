import Armory.Bits
import Armory.Guardian
import Armory.Text.Digits
import Armory.Tier

/-! Items as a character or the vault holds them. -/
namespace Armory

/-- The hash that identifies a kind of item, a bucket or a progression. -/
abbrev Hash := UInt32

/-- The identifier of a character. -/
abbrev CharacterId := String

/-- Whether the game lets an item be moved. -/
inductive TransferStatus where
  | canTransfer | itemIsEquipped | notTransferrable | noRoomInDestination
  deriving DecidableEq, Repr

namespace TransferStatus

/-- Whether a bit is set in a flag word; negative words are read in two's complement. -/
def bit (flags : Int) (place : Nat) : Bool := flags / (Bits.size place : Int) % 2 == 1

/-- The status that flags report: being equipped comes first, then being fixed in place, then lack of
room. -/
def ofFlags (flags : Int) : TransferStatus :=
  if bit flags 0 then itemIsEquipped
  else if bit flags 1 then notTransferrable
  else if bit flags 2 then noRoomInDestination
  else canTransfer

/-- The name of a status. -/
def name : TransferStatus → String
  | canTransfer => "can_transfer" | itemIsEquipped => "item_is_equipped"
  | notTransferrable => "not_transferrable" | noRoomInDestination => "no_room_in_destination"

end TransferStatus

/-- One item, or one stack of items without an identity of their own. -/
structure Item where
  itemHash : Hash
  /-- Absent for stacks, such as currencies. -/
  instanceId : Option String
  bucketHash : Hash
  quantity : Nat
  /-- Zero for stacks. -/
  power : Nat
  tier : Tier
  guardian : Guardian
  requiredLevel : Nat
  canEquip : Bool
  isEquipped : Bool
  isEngram : Bool
  transferStatus : TransferStatus
  /-- The character that holds the item, or none for the vault. -/
  owner : Option CharacterId
  deriving DecidableEq, Repr

/-- The number that a text of an optional sign and ASCII digits spells, if it fits into 64 bits with a
sign. -/
def parseLong? (s : String) : Option Int :=
  (Text.integer? s).filter (Bits.holdsSigned 64)

namespace Item

/-- Whether an item lies in the vault. -/
def inVault (i : Item) : Bool := i.owner.isNone

/-- Whether a character holds an item. -/
def ownedBy (i : Item) (c : CharacterId) : Bool := i.owner == some c

/-- Whether a character wears an item. -/
def equippedOn (i : Item) (c : CharacterId) : Bool := i.isEquipped && i.ownedBy c

/-- Whether an item is an exotic. -/
def isExotic (i : Item) : Bool := i.tier == .exotic

/-- The instance id as a number, if it is one. -/
def numericId? (i : Item) : Option Int := i.instanceId.bind parseLong?

/-- Whether two records describe the same item. -/
def sameInstance (i j : Item) : Bool := i.itemHash == j.itemHash && i.instanceId == j.instanceId

/-- Items from the most to the least powerful; items of one power keep their order. -/
def strongestFirst (items : List Item) : List Item :=
  items.mergeSort fun i j => decide (j.power ≤ i.power)

/-- Items from the least to the most powerful; items of one power keep their order. -/
def weakestFirst (items : List Item) : List Item :=
  items.mergeSort fun i j => decide (i.power ≤ j.power)

end Item
end Armory
