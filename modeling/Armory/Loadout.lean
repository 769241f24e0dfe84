import Armory.Bucket
import Armory.Item
import Armory.Sum

/-! Loadouts: at most one item for each bucket. A loadout is the function that gives the item of a bucket, so
two loadouts that hold the same items are equal. -/
namespace Armory

/-- Which item each bucket holds; a record of items, not their owner. -/
@[ext] structure Loadout where
  get? : Bucket → Option Item

namespace Loadout

/-- The loadout without items. -/
def empty : Loadout := ⟨fun _ => none⟩

instance : Inhabited Loadout := ⟨empty⟩

/-- A loadout with the item of a bucket set or replaced. -/
def insert (l : Loadout) (b : Bucket) (i : Item) : Loadout :=
  ⟨fun c => if c = b then some i else l.get? c⟩

/-- A loadout with a bucket emptied. -/
def erase (l : Loadout) (b : Bucket) : Loadout := ⟨fun c => if c = b then none else l.get? c⟩

/-- The buckets that hold an item, with their items, in the order of the buckets. -/
def entries (l : Loadout) : List (Bucket × Item) :=
  Bucket.all.filterMap fun b => (l.get? b).map (b, ·)

/-- The items of a loadout in the order of their buckets. -/
def items (l : Loadout) : List Item := l.entries.map (·.2)

/-- How many buckets hold an item. -/
def size (l : Loadout) : Nat := l.entries.length

/-- Whether no bucket holds an item. -/
def isEmpty (l : Loadout) : Bool := l.size == 0

/-- The loadout of a list of entries; of repeated buckets the last one counts. -/
def ofList (es : List (Bucket × Item)) : Loadout := es.foldl (fun l e => l.insert e.1 e.2) empty

/-- The power of the item in a bucket, zero for an empty one. -/
def powerAt (l : Loadout) (b : Bucket) : Nat := ((l.get? b).map (·.power)).getD 0

/-- The sum of the powers of the buckets that count for the power level. The power level is an eighth of
it. -/
def totalPower (l : Loadout) : Nat := sumOf l.powerAt Bucket.powered

/-- How many of the given buckets hold an exotic. -/
def exoticCount (l : Loadout) (buckets : List Bucket) : Nat :=
  buckets.countP fun b => (l.get? b).any (·.isExotic)

@[simp] theorem get?_empty (b : Bucket) : empty.get? b = none := rfl

@[simp] theorem get?_insert (l : Loadout) (b c : Bucket) (i : Item) :
    (l.insert b i).get? c = if c = b then some i else l.get? c := rfl

@[simp] theorem get?_erase (l : Loadout) (b c : Bucket) :
    (l.erase b).get? c = if c = b then none else l.get? c := rfl

theorem mem_entries {l : Loadout} {b : Bucket} {i : Item} :
    (b, i) ∈ l.entries ↔ l.get? b = some i := Bucket.mem_filterMap_all

end Loadout
end Armory
