import Armory.Catalog

/-! Items grouped by bucket, the most powerful first, and the choice of one item among the most powerful. -/
namespace Armory

/-- The items that belong into a bucket, the most powerful first. -/
def Catalog.gearFor (c : Catalog) (b : Bucket) (items : List Item) : List Item :=
  Item.strongestFirst (items.filter fun i => c.bucketOf? i.bucketHash == some b)

/-- Items by bucket; a bucket is absent until an item has been put into it. -/
structure Groups where
  get? : Bucket → Option (List Item)

namespace Groups

/-- No items. -/
def empty : Groups := ⟨fun _ => none⟩

/-- The items of a bucket, none if it is absent. -/
def items (g : Groups) (b : Bucket) : List Item := (g.get? b).getD []

/-- The groups with one more item, at the end of a bucket. -/
def push (g : Groups) (b : Bucket) (i : Item) : Groups :=
  ⟨fun c => if c = b then some (g.items b ++ [i]) else g.get? c⟩

/-- The groups with the most powerful items of each bucket first. -/
def strongestFirst (g : Groups) : Groups := ⟨fun b => (g.get? b).map Item.strongestFirst⟩

/-- The buckets that are present, with their items, in order. -/
def entries (g : Groups) : List (Bucket × List Item) :=
  Bucket.all.filterMap fun b => (g.get? b).map (b, ·)

@[simp] theorem items_empty (b : Bucket) : empty.items b = [] := rfl

theorem items_push (g : Groups) (b c : Bucket) (i : Item) :
    (g.push b i).items c = if c = b then g.items b ++ [i] else g.items c := by
  by_cases h : c = b <;> simp [items, push, h]

theorem mem_entries {g : Groups} {b : Bucket} {group : List Item} :
    (b, group) ∈ g.entries ↔ g.get? b = some group := Bucket.mem_filterMap_all

end Groups

/-- The groups with one more item, in the bucket that its hash names; an item of no bucket is dropped. -/
def Catalog.putInGroup (c : Catalog) (g : Groups) (i : Item) : Groups :=
  match c.bucketOf? i.bucketHash with
  | some b => g.push b i
  | none => g

/-- The items by bucket, the most powerful first. -/
def Catalog.groups (c : Catalog) (items : List Item) : Groups :=
  (items.foldl c.putInGroup .empty).strongestFirst

/-- The buckets into which some item belongs, each with its items; items of no bucket are dropped. -/
def Catalog.groupGear (c : Catalog) (items : List Item) : List (Bucket × List Item) := (c.groups items).entries

namespace Item

/-- The item to keep of a candidate and the next item of the same power: rather one that the destination
wears, then one that it holds, then one in the vault, then one that another character holds. A candidate in the
vault is kept, whatever comes next. -/
def preferred (destination : CharacterId) (candidate next : Item) : Item :=
  let elsewhere := !candidate.inVault && !candidate.ownedBy destination
  if next.ownedBy destination && elsewhere then next
  else if next.ownedBy destination && candidate.ownedBy destination then
    if next.isEquipped && !candidate.isEquipped then next else candidate
  else if elsewhere && next.inVault then next
  else candidate

/-- The candidate after the items that follow it; the search ends at the first weaker item, and once the
destination wears the candidate. -/
def bestAfter (destination : CharacterId) (candidate : Item) : List Item → Item
  | [] => candidate
  | next :: rest =>
    if next.power < candidate.power || candidate.equippedOn destination then candidate
    else bestAfter destination (preferred destination candidate next) rest

/-- The item of a bucket to put on, from its items with the most powerful first. -/
def best? (destination : CharacterId) : List Item → Option Item
  | [] => none
  | first :: rest => some (bestAfter destination first rest)

end Item
end Armory
