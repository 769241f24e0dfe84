import Armory.Game
import Armory.Profile
import Armory.Sum

/-! The game simulated on an inventory of its own: items move between characters and the vault, buckets have a
capacity, stacks are split and merged, and a character wears one item of each bucket. -/
namespace Armory

/-- The state of a simulated game. -/
structure Simulation where
  membership : Membership
  items : List Item
  /-- Items with these hashes cannot be touched. -/
  failing : List Hash := []

namespace Simulation

/-- The simulated game that starts with the items of a profile. -/
def ofProfile (p : Profile) : Simulation where
  membership := ⟨p.membershipId, p.membershipType, "simulated"⟩
  items := p.items

/-- A simulated game in which items of one more hash cannot be touched. -/
def fail (s : Simulation) (h : Hash) : Simulation := { s with failing := h :: s.failing }

/-- How much of an item hash an owner holds. -/
def held (s : Simulation) (owner : Option CharacterId) (h : Hash) : Nat :=
  sumOf (·.quantity) (s.items.filter fun i => i.itemHash == h && i.owner == owner)

/-- Whether a character wears the item with a numeric instance id. -/
def wears (s : Simulation) (id : Int) (c : CharacterId) : Bool :=
  s.items.any fun i => i.numericId? == some id && i.equippedOn c

/-- How many items with a bucket hash a character holds. -/
def occupancy (s : Simulation) (c : CharacterId) (bucketHash : Hash) : Nat :=
  s.items.countP fun i => i.ownedBy c && i.bucketHash == bucketHash

/-- Whether a hash names a bucket. -/
def isBucket (h : Hash) : Bool := (Catalog.standard.bucketOf? h).isSome

/-- The largest count of items that any character holds in one bucket. -/
def maxOccupancy (s : Simulation) : Nat :=
  s.items.foldl (fun most i => match i.owner with
    | some c => if isBucket i.bucketHash then max most (s.occupancy c i.bucketHash) else most
    | none => most) 0

/-- The refusal of a call. -/
def refusal (status : String) : GameError := .rejected 1623 status status

/-- Whether an item is the one that a transfer asks for, among those of an owner. -/
def isWanted (r : TransferRequest) (owner : Option CharacterId) (i : Item) : Bool :=
  i.itemHash == r.itemHash && i.instanceId == r.itemId && i.owner == owner
    && r.stackSize ≤ i.quantity

/-- Items with one more item: a stack joins the first stack of its kind and owner. -/
def add (moved : Item) (items : List Item) : List Item :=
  if moved.instanceId.isNone then
    match items.findIdx? fun i =>
        i.instanceId.isNone && i.itemHash == moved.itemHash && i.owner == moved.owner with
    | some n => items.modify n fun i => { i with quantity := i.quantity + moved.quantity }
    | none => items ++ [moved]
  else items ++ [moved]

/-- Items with a quantity of the item at an index given to an owner, the rest of a larger stack staying
where it is. -/
def place (items : List Item) (index : Nat) (i : Item) (quantity : Nat)
    (owner : Option CharacterId) : List Item :=
  if quantity < i.quantity then
    add { i with quantity, owner, isEquipped := false }
      (items.modify index fun i => { i with quantity := i.quantity - quantity })
  else add { i with owner, isEquipped := false } (items.eraseIdx index)

/-- The place and the item that a transfer asks for, among those of an owner. -/
def locate? (s : Simulation) (r : TransferRequest) (owner : Option CharacterId) :
    Option (Nat × Item) :=
  (s.items.findIdx? (isWanted r owner)).bind fun n => s.items[n]?.map (n, ·)

/-- The items after a transfer, or why it is refused. -/
def transferred (s : Simulation) (r : TransferRequest) : Except GameError (List Item) :=
  if s.failing.contains r.itemHash then .error (refusal "DestinyItemNotFound")
  else if r.transferToVault then
    match s.locate? r (some r.characterId) with
    | none => .error (refusal "DestinyItemNotFound")
    | some (n, i) =>
      if i.isEquipped then .error (refusal "DestinyItemIsEquipped")
      else .ok (place s.items n i r.stackSize none)
  else
    match s.locate? r none with
    | none => .error (refusal "DestinyItemNotFound")
    | some (n, i) =>
      if isBucket i.bucketHash && Bucket.capacity ≤ s.occupancy r.characterId i.bucketHash then
        .error (refusal "DestinyNoRoomInDestination")
      else .ok (place s.items n i r.stackSize (some r.characterId))

/-- A transfer; a refused one changes nothing. -/
def transfer (s : Simulation) (r : TransferRequest) : Except GameError Unit × Simulation :=
  match s.transferred r with
  | .ok items => (.ok (), { s with items })
  | .error e => (.error e, s)

/-- Items of which a character wears the one at an index, and no other of the same bucket hash. -/
def wearAt (items : List Item) (index : Nat) (bucketHash : Hash) (c : CharacterId) : List Item :=
  (items.map fun i =>
    if i.ownedBy c && i.bucketHash == bucketHash then { i with isEquipped := false } else i).modify
      index fun i => { i with isEquipped := true }

/-- Several items put on one after the other; those before a refused one stay on. -/
def equipAll (s : Simulation) (c : CharacterId) : List Int → Except GameError Unit × Simulation
  | [] => (.ok (), s)
  | id :: ids =>
    match s.items.findIdx? fun i => i.numericId? == some id && i.ownedBy c with
    | none => (.error (refusal "DestinyItemNotFound"), s)
    | some n =>
      match s.items[n]? with
      | none => (.error (refusal "DestinyItemNotFound"), s)
      | some i =>
        if s.failing.contains i.itemHash then
          (.error (refusal "DestinyItemActionForbidden"), s)
        else equipAll { s with items := wearAt s.items n i.bucketHash c } c ids

/-- One item put on; its instance id has to be a number. -/
def equipOne (s : Simulation) (r : EquipRequest) : Except GameError Unit × Simulation :=
  match parseLong? r.itemId with
  | none => (.error (refusal "DestinyItemNotFound"), s)
  | some id => s.equipAll r.characterId [id]

/-- The replies of the simulated game. It knows the account, and reports neither profiles nor
progressions. -/
def answer : Dialogue.Answering Game Simulation
  | .currentAccount, s => (.ok ⟨"simulated-account", s.membership⟩, s)
  | .loadProfile _, s => (.error (.transport "profile loading is not simulated"), s)
  | .loadProgressions _, s => (.error (.transport "progressions are not simulated"), s)
  | .transferItem r, s => s.transfer r
  | .equipItem r, s => s.equipOne r
  | .equipItems r, s => s.equipAll r.characterId r.itemIds

end Simulation
end Armory
