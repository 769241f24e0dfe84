import Armory.Gear.Transfer
import Armory.Loadout.Strongest

/-! Putting a loadout on. First comes a plan of which items have to make room on the destination; then items
that other characters wear are replaced there, room is made, everything is moved to the destination, and
last all of it is put on with one call. What makes room is under way at the same time, and so is what is moved
to the destination. No failed call keeps a later step from being tried. -/
namespace Armory.Equip

/-- How a call to wear something ended. -/
inductive Outcome where
  | completed
  | failed (message : String)
  deriving DecidableEq, Repr

/-- The outcome of a reply. -/
def Outcome.ofReply : Except GameError Unit → Outcome
  | .ok _ => .completed
  | .error e => .failed e.message

/-- An item that its holder takes off, and what the holder wears instead. -/
structure Swap where
  characterId : CharacterId
  bucket : Bucket
  displaced : Hash
  /-- Absent if the holder has nothing else to wear. -/
  substitute : Option Hash
  outcome : Option Outcome
  deriving DecidableEq, Repr

/-- Items put on with one call. -/
structure Batch where
  itemIds : List Int
  outcome : Outcome
  deriving DecidableEq, Repr

/-- What became of a loadout that was to be put on. -/
structure Report where
  evictions : Transfer.Report
  swaps : List Swap
  transfers : Transfer.Report
  /-- Absent if nothing had to be put on. -/
  equip : Option Batch
  deriving DecidableEq, Repr

/-- Whether an outcome is a failure. -/
def Outcome.isFailure : Outcome → Bool
  | .completed => false
  | .failed _ => true

/-- Whether no call failed. -/
def Report.isClean (r : Report) : Bool :=
  r.evictions.failures.isEmpty && r.transfers.failures.isEmpty &&
    r.swaps.all (fun s => !s.outcome.any (·.isFailure)) && !r.equip.any (·.outcome.isFailure)

/-! ## Making room -/

/-- The item that leaves a bucket: the last one that is not worn and is no target itself. -/
def victim? (l : Loadout) (e : Equipment) (b : Bucket) : Option Item :=
  (e.unequipped b).reverse.find? fun i => !l.items.any (·.sameInstance i)

/-- The items that have to make room: one for each full bucket that is about to receive an item. -/
def evictions (l : Loadout) (destination : CharacterId) (p : Profile) : List Item :=
  match p.equipment? destination with
  | none => []
  | some e => l.entries.filterMap fun (b, i) =>
    if i.ownedBy destination || e.occupancy b < Bucket.capacity then none else victim? l e b

/-! ## Replacing what others wear -/

/-- The items that a holder could wear instead of one it wears, the least powerful first. -/
def substitutes (i : Item) (holder : CharacterId) (p : Profile) : List Item :=
  let filters : List Filter :=
    [.ownedBy (some holder), .bucketHash i.bucketHash, .notTier .exotic, .equippable true]
  let accepted := match p.character? holder with
    | some c => Filter.select [.usableBy c.guardian] (Filter.select filters p.items)
    | none => Filter.select filters p.items
  Item.weakestFirst (accepted.filter fun s => !s.sameInstance i && s.instanceId.isSome)

/-- The item that a holder wears instead, with its instance id. -/
def substitute? (i : Item) (holder : CharacterId) (p : Profile) : Option (Item × String) :=
  match substitutes i holder p with
  | [] => none
  | s :: _ => s.instanceId.map (s, ·)

/-- An item replaced on the character that wears it. -/
def swap (b : Bucket) (i : Item) (holder : CharacterId) (p : Profile) : Dialogue Game Swap :=
  match substitute? i holder p with
  | none => .done ⟨holder, b, i.itemHash, none, none⟩
  | some (s, id) =>
    .ask (.equipItem ⟨id, holder, p.membershipType⟩) fun reply =>
      .done ⟨holder, b, i.itemHash, some s.itemHash, some (.ofReply reply)⟩

/-- The items of a loadout that a character other than the destination wears, with their wearers. -/
def wornElsewhere (l : Loadout) (destination : CharacterId) : List (Bucket × Item × CharacterId) :=
  l.entries.filterMap fun (b, i) => match i.owner with
    | some holder => if i.isEquipped && holder != destination then some (b, i, holder) else none
    | none => none

/-! ## Putting on -/

/-- The numeric ids of the items that a character does not wear yet; items without such an id are passed
over. -/
def idsToEquip (items : List Item) (destination : CharacterId) : List Int :=
  (items.filter fun i => !i.equippedOn destination).filterMap (·.numericId?)

/-- Items put on with one call, or with none if there is nothing to put on. -/
def putOn (items : List Item) (destination : CharacterId) (membershipType : Int) :
    Dialogue Game (Option Batch) :=
  match idsToEquip items destination with
  | [] => .done none
  | id :: ids =>
    .ask (.equipItems ⟨id :: ids, destination, membershipType⟩) fun reply =>
      .done (some ⟨id :: ids, .ofReply reply⟩)

/-- A loadout put on by a character of the profile. -/
def wearing (l : Loadout) (destination : CharacterId) (p : Profile) : Procedure Game Report := do
  let swaps ← .ofDialogue
    (Dialogue.each (fun (b, i, holder) => swap b i holder p) (wornElsewhere l destination))
  let evicted ← Transfer.batch (evictions l destination p) none none p.membershipType
  let moved ← Transfer.batch l.items (some destination) none p.membershipType
  let equip ← .ofDialogue (putOn l.items destination p.membershipType)
  pure ⟨evicted, swaps, moved, equip⟩

/-- A loadout put on by a character, if the profile has it. -/
def equipping (l : Loadout) (destination : CharacterId) (p : Profile) :
    Procedure Game (Except DomainError Report) :=
  match p.requireCharacter destination with
  | .error e => .done (.error e)
  | .ok _ => (wearing l destination p).andThen fun report => .done (.ok report)

/-! ### One thing after the other -/

/-- A loadout put on by a character of the profile, with one move after the other. -/
def wear (l : Loadout) (destination : CharacterId) (p : Profile) : Dialogue Game Report :=
  (wearing l destination p).inTurn

/-- A loadout put on by a character, if the profile has it, with one move after the other. -/
def loadout (l : Loadout) (destination : CharacterId) (p : Profile) :
    Dialogue Game (Except DomainError Report) :=
  (equipping l destination p).inTurn

theorem wear_eq (l : Loadout) (destination : CharacterId) (p : Profile) :
    wear l destination p = (do
      let swaps ←
        Dialogue.each (fun (b, i, holder) => swap b i holder p) (wornElsewhere l destination)
      let evicted ← Transfer.run (evictions l destination p) none none p.membershipType
      let moved ← Transfer.run l.items (some destination) none p.membershipType
      let equip ← putOn l.items destination p.membershipType
      pure ⟨evicted, swaps, moved, equip⟩) := by
  simp only [wear, wearing, Transfer.run, Procedure.inTurn, Procedure.bind_eq, Procedure.pure_eq,
    Procedure.along_andThen, Procedure.along_ofDialogue, Procedure.along_done, Dialogue.bind_eq,
    Dialogue.pure_eq]

theorem loadout_eq (l : Loadout) (destination : CharacterId) (p : Profile) :
    loadout l destination p =
      match p.requireCharacter destination with
      | .error e => .done (.error e)
      | .ok _ => (wear l destination p).andThen fun report => .done (.ok report) := by
  unfold loadout equipping
  cases p.requireCharacter destination with
  | error e => rfl
  | ok c => exact Procedure.along_andThen _ _

end Armory.Equip
