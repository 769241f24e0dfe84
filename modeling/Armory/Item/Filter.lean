import Armory.Item

/-! Conditions on items, and two ways to select by a list of conditions: one condition after the other, and
all at once by moving the selected items to the front of an array. -/
namespace Armory

/-- One condition on an item. -/
inductive Filter where
  | itemHash (hash : Hash)
  | bucketHash (hash : Hash)
  | tier (tier : Tier)
  | notTier (tier : Tier)
  | usableBy (guardian : Guardian)
  | maxRequiredLevel (level : Nat)
  | ownedBy (owner : Option CharacterId)
  | instanceId (id : String)
  | engram (expected : Bool)
  | equippable (expected : Bool)
  deriving DecidableEq, Repr

namespace Filter

/-- Whether an item meets a condition. -/
def accepts (i : Item) : Filter → Bool
  | itemHash h => i.itemHash == h
  | bucketHash h => i.bucketHash == h
  | tier t => i.tier == t
  | notTier t => i.tier != t
  | usableBy g => i.guardian.accepts g
  | maxRequiredLevel n => i.requiredLevel ≤ n
  | ownedBy o => i.owner == o
  | instanceId id => i.instanceId == some id
  | engram b => i.isEngram == b
  | equippable b => i.canEquip == b

/-- Whether an item meets every condition of a list. -/
def acceptsAll (filters : List Filter) (i : Item) : Bool := filters.all (accepts i)

/-- The items that meet every condition, found one condition after the other. -/
def select (filters : List Filter) (items : List Item) : List Item :=
  filters.foldl (fun kept f => kept.filter fun i => accepts i f) items

/-- One step of the selection in place: an accepted item at `index` changes places with the item at
`kept.1`, the end of the accepted items so far. -/
def retainStep (filters : List Filter) (kept : Nat × Array Item) (index : Nat) : Nat × Array Item :=
  match kept.2[index]? with
  | some i =>
    if acceptsAll filters i then (kept.1 + 1, kept.2.swapIfInBounds kept.1 index) else kept
  | none => kept

/-- The items that meet every condition, moved to the front of one array and cut off there. -/
def retain (filters : List Filter) (items : Array Item) : Array Item :=
  let (kept, moved) := (List.range items.size).foldl (retainStep filters) (0, items)
  moved.take kept

end Filter
end Armory
