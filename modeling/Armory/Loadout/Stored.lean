import Armory.Json.Decode
import Armory.Json.Reader
import Armory.Json.Writer
import Armory.Profile

/-! Loadouts as they are stored: references to items, one for each bucket, written as a JSON object with the
buckets as keys. Restoring looks each reference up in a profile. -/
namespace Armory

/-- A stored reference to an item. -/
structure StoredItem where
  itemHash : Hash
  instanceId : Option String
  bucketHash : Hash
  deriving DecidableEq, Repr

/-- A stored loadout. -/
@[ext] structure StoredLoadout where
  get? : Bucket → Option StoredItem

namespace StoredLoadout

/-- The stored loadout without references. -/
def empty : StoredLoadout := ⟨fun _ => none⟩

instance : Inhabited StoredLoadout := ⟨empty⟩

/-- A stored loadout with the reference of a bucket set or replaced. -/
def insert (l : StoredLoadout) (b : Bucket) (i : StoredItem) : StoredLoadout :=
  ⟨fun c => if c = b then some i else l.get? c⟩

/-- The references of a stored loadout in the order of their buckets. -/
def entries (l : StoredLoadout) : List (Bucket × StoredItem) :=
  Bucket.all.filterMap fun b => (l.get? b).map (b, ·)

/-- How many buckets have a reference. -/
def size (l : StoredLoadout) : Nat := l.entries.length

/-- What is stored of a loadout. -/
def ofLoadout (l : Loadout) : StoredLoadout :=
  ⟨fun b => (l.get? b).map fun i => ⟨i.itemHash, i.instanceId, i.bucketHash⟩⟩

/-! ## As text -/

/-- A reference as JSON. -/
def itemToJson (i : StoredItem) : Json :=
  .record [("itemHash", .nat i.itemHash.toNat), ("itemInstanceId", Json.textOrNull i.instanceId),
    ("bucketHash", .nat i.bucketHash.toNat)]

/-- A stored loadout as JSON. -/
def toJson (l : StoredLoadout) : Json :=
  .record (l.entries.map fun e => (e.1.key, itemToJson e.2))

/-- The text of a stored loadout. -/
def encode (l : StoredLoadout) : String := l.toJson.compact

/-- The reference that a JSON value gives. -/
def itemOfJson? (v : Json) : Option StoredItem := do
  let r ← v.record? ["itemHash", "itemInstanceId", "bucketHash"]
  let itemHash ← r.required "itemHash" Json.word?
  let instanceId ← r.optional "itemInstanceId" Json.text?
  let bucketHash ← r.required "bucketHash" Json.word?
  pure ⟨itemHash, instanceId, bucketHash⟩

/-- The stored loadout that a JSON value gives; every key names a bucket, and of repeated keys the last
one counts. -/
def ofJson? (v : Json) : Option StoredLoadout := do
  let entries ← v.entries? itemOfJson?
  let entries ← entries.mapM fun (k, i) => (Bucket.ofKey? k).map (·, i)
  pure (entries.foldl (fun l e => l.insert e.1 e.2) empty)

/-- The stored loadout that a text gives. -/
def decode? (s : String) : Option StoredLoadout := (Json.parse? s).bind ofJson?

end StoredLoadout

/-- A loadout found again in a profile. -/
structure Restored where
  loadout : Loadout
  /-- The buckets whose kind of item is nowhere in the profile. -/
  unresolved : List Bucket
  /-- The buckets that hold another item of the same kind. -/
  substituted : List Bucket

/-- What became of one stored reference. -/
inductive Restored.Slot where
  | missing
  | exact (item : Item)
  | substitute (item : Item)

namespace Restored

/-- What a reference means among the given items: the first item of its kind and instance, or else the
first item of its kind. -/
def find (items : List Item) (stored : StoredItem) : Slot :=
  let sameKind := items.filter (·.itemHash == stored.itemHash)
  match sameKind with
  | [] => .missing
  | first :: _ =>
    match stored.instanceId.bind fun id => sameKind.find? (·.instanceId == some id) with
    | some i => .exact i
    | none => .substitute first

/-- The item of a slot. -/
def Slot.item? : Slot → Option Item
  | .missing => none
  | .exact i => some i
  | .substitute i => some i

/-- What has been restored, after one more reference. -/
def settle (items : List Item) (r : Restored) (e : Bucket × StoredItem) : Restored :=
  match find items e.2 with
  | .missing => { r with unresolved := r.unresolved ++ [e.1] }
  | .exact i => { r with loadout := r.loadout.insert e.1 i }
  | .substitute i => { r with loadout := r.loadout.insert e.1 i, substituted := r.substituted ++ [e.1] }

/-- A stored loadout looked up among the given items, one reference after the other. -/
def ofStored (l : StoredLoadout) (items : List Item) : Restored :=
  l.entries.foldl (settle items) ⟨.empty, [], []⟩

end Restored
end Armory
