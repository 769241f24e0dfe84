import Armory.Bucket
import Armory.Item

/-! What one character carries, bucket by bucket: one item in the equipped slot and a list of others. -/
namespace Armory

/-- What a bucket of one character holds. -/
structure Contents where
  equipped : Option Item := none
  unequipped : List Item := []
  deriving DecidableEq, Repr

namespace Contents

/-- How many items a bucket holds. -/
def occupancy (c : Contents) : Nat := (if c.equipped.isSome then 1 else 0) + c.unequipped.length

/-- All items of a bucket, the equipped one first. -/
def items (c : Contents) : List Item := c.equipped.toList ++ c.unequipped

/-- Whether a bucket holds an item. -/
def contains (c : Contents) (i : Item) : Bool := c.items.any (·.sameInstance i)

/-- A bucket with one more item, which takes the equipped slot if it is worn and the slot is free. -/
def push (c : Contents) (i : Item) : Contents :=
  if i.isEquipped && c.equipped.isNone then { c with equipped := some i }
  else { c with unequipped := c.unequipped ++ [i] }

theorem occupancy_eq (c : Contents) : c.occupancy = c.items.length := by
  cases h : c.equipped <;> simp [occupancy, items, h, Nat.add_comm]

end Contents

/-- What a character carries; a bucket is absent until something has been put into it. -/
@[ext] structure Equipment where
  get? : Bucket → Option Contents

namespace Equipment

/-- Nothing carried. -/
def empty : Equipment := ⟨fun _ => none⟩

instance : Inhabited Equipment := ⟨empty⟩

/-- What a bucket holds, nothing if it is absent. -/
def contents (e : Equipment) (b : Bucket) : Contents := (e.get? b).getD {}

/-- The equipment with a bucket made present. -/
def touch (e : Equipment) (b : Bucket) : Equipment :=
  ⟨fun c => if c = b then some (e.contents b) else e.get? c⟩

/-- The equipment with one more item in a bucket. -/
def push (e : Equipment) (b : Bucket) (i : Item) : Equipment :=
  ⟨fun c => if c = b then some ((e.contents b).push i) else e.get? c⟩

/-- The items of a bucket that are not in its equipped slot. -/
def unequipped (e : Equipment) (b : Bucket) : List Item := (e.contents b).unequipped

/-- How many items a bucket holds. -/
def occupancy (e : Equipment) (b : Bucket) : Nat := (e.contents b).occupancy

/-- The buckets that are present, with their contents, in order. -/
def entries (e : Equipment) : List (Bucket × Contents) :=
  Bucket.all.filterMap fun b => (e.get? b).map (b, ·)

theorem contents_push (e : Equipment) (b c : Bucket) (i : Item) :
    (e.push b i).contents c = if c = b then (e.contents b).push i else e.contents c := by
  by_cases h : c = b <;> simp [contents, push, h]

end Equipment
end Armory
