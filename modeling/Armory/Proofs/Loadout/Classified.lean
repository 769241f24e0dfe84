import Armory.Proofs.Item.First
import Armory.Proofs.Loadout.Restored

/-! What becomes of a stored loadout among any items. A stored reference is missing, found again, or replaced by
another copy (`Restored.Slot.meant_find`), and what is decided of its bucket is not touched by the references that
follow (`Restored.ofStored_eq`). Main statement: every stored bucket is in one of three classes, with the item that
stands for it, and no other bucket is in any (`Restored.classified_ofStored`). -/
namespace Armory

open Item (FirstWith)

variable {items : List Item} {stored : StoredItem} {l : StoredLoadout} {b : Bucket} {i : Item}

namespace StoredItem

/-- An item of the stored kind. -/
def SameKind (stored : StoredItem) (i : Item) : Prop := i.itemHash = stored.itemHash

/-- An item of the stored kind that is the very instance that was stored; without a stored instance there is none. -/
def SameInstance (stored : StoredItem) (i : Item) : Prop :=
  stored.SameKind i ∧ ∃ id, stored.instanceId = some id ∧ i.instanceId = some id

end StoredItem

theorem StoredLoadout.mem_entries : (b, stored) ∈ l.entries ↔ l.get? b = some stored :=
  Bucket.mem_filterMap_all

namespace Restored

/-! ## One reference -/

/-- What a slot says of a reference and of the items among which it was looked up. -/
def Slot.Meant (items : List Item) (stored : StoredItem) : Slot → Prop
  | .missing => ∀ i ∈ items, ¬ stored.SameKind i
  | .exact i => FirstWith stored.SameInstance items i
  | .substitute i => (∀ j ∈ items, ¬ stored.SameInstance j) ∧ FirstWith stored.SameKind items i

/-- The search for an instance among the items of its kind, as a search among all items. -/
theorem find?_instance_eq_some {id : String} (hid : stored.instanceId = some id)
    (found : (items.filter (·.itemHash == stored.itemHash)).find? (·.instanceId == some id) = some i) :
    FirstWith stored.SameInstance items i := by
  rw [List.find?_filter, Item.find?_eq_some_iff_firstWith] at found
  refine (Item.firstWith_congr fun j _ => ?_).mp found
  simp [StoredItem.SameInstance, StoredItem.SameKind, hid]

theorem Slot.meant_find (items : List Item) (stored : StoredItem) :
    Slot.Meant items stored (find items stored) := by
  unfold find
  cases kind : items.filter (·.itemHash == stored.itemHash) with
  | nil =>
    intro i hi same
    exact List.filter_eq_nil_iff.mp kind i hi (beq_iff_eq.mpr same)
  | cons first rest =>
    have head : items.find? (·.itemHash == stored.itemHash) = some first := by
      rw [← List.head?_filter, kind, List.head?_cons]
    have leads : FirstWith stored.SameKind items first :=
      (Item.firstWith_congr fun _ _ => beq_iff_eq).mp (Item.find?_eq_some_iff_firstWith.mp head)
    cases found : stored.instanceId.bind fun id => (first :: rest).find? (·.instanceId == some id) with
    | some i =>
      simp only [found]
      obtain ⟨id, hid, found⟩ := Option.bind_eq_some_iff.mp found
      rw [← kind] at found
      exact find?_instance_eq_some hid found
    | none =>
      simp only [found]
      refine ⟨?_, leads⟩
      rintro j hj ⟨same, id, hid, single⟩
      rw [hid, Option.bind_some, ← kind, List.find?_eq_none] at found
      exact found j (List.mem_filter.mpr ⟨hj, beq_iff_eq.mpr same⟩) (beq_iff_eq.mpr single)

/-! ## Every bucket -/

/-- What is picked from the references stands in the order of their buckets, each bucket at most once. -/
theorem ascends_filter_entries (l : StoredLoadout) (p : Bucket × StoredItem → Bool) :
    ((l.entries.filter p).map (·.1)).Pairwise fun b c => b.index < c.index := by
  rw [List.pairwise_map]
  exact (Bucket.filterMap_all_ascends l.get?).filter p

theorem get?_ofStored (l : StoredLoadout) (items : List Item) (b : Bucket) :
    (ofStored l items).loadout.get? b = (l.get? b).bind fun stored => (find items stored).item? := by
  rw [ofStored_eq]

theorem mem_unresolved :
    b ∈ (ofStored l items).unresolved ↔ ∃ stored, l.get? b = some stored ∧ find items stored = .missing := by
  simp only [ofStored_eq, List.mem_map, List.mem_filter, Prod.exists, exists_and_right, exists_eq_right,
    StoredLoadout.mem_entries]
  refine exists_congr fun stored => and_congr_right fun _ => ?_
  cases find items stored <;> simp

theorem mem_substituted :
    b ∈ (ofStored l items).substituted ↔
      ∃ stored, l.get? b = some stored ∧ ∃ i, find items stored = .substitute i := by
  simp only [ofStored_eq, List.mem_map, List.mem_filter, Prod.exists, exists_and_right, exists_eq_right,
    StoredLoadout.mem_entries]
  refine exists_congr fun stored => and_congr_right fun _ => ?_
  cases find items stored <;> simp

/-- The class of a bucket that has a reference, and the item that stands for it in the loadout. -/
structure Classified (items : List Item) (r : Restored) (b : Bucket) (stored : StoredItem) : Prop where
  missing_iff : b ∈ r.unresolved ↔ ∀ i ∈ items, ¬ stored.SameKind i
  exact_iff : b ∉ r.unresolved ∧ b ∉ r.substituted ↔ ∃ i ∈ items, stored.SameInstance i
  substitute_iff : b ∈ r.substituted ↔
    (∃ i ∈ items, stored.SameKind i) ∧ ¬ ∃ i ∈ items, stored.SameInstance i
  apart : b ∈ r.unresolved → b ∉ r.substituted
  missing : b ∈ r.unresolved → r.loadout.get? b = none
  exact : b ∉ r.unresolved → b ∉ r.substituted →
    ∃ i, r.loadout.get? b = some i ∧ FirstWith stored.SameInstance items i
  substitute : b ∈ r.substituted → ∃ i, r.loadout.get? b = some i ∧ FirstWith stored.SameKind items i

theorem classified (h : l.get? b = some stored) : Classified items (ofStored l items) b stored := by
  have there : (ofStored l items).loadout.get? b = (find items stored).item? := by
    rw [get?_ofStored, h, Option.bind_some]
  have meant := Slot.meant_find items stored
  cases slot : find items stored with
  | missing =>
    rw [slot] at there meant
    have missing : b ∈ (ofStored l items).unresolved := mem_unresolved.mpr ⟨stored, h, slot⟩
    have kept : b ∉ (ofStored l items).substituted := by simp [mem_substituted, h, slot]
    exact {
      missing_iff := iff_of_true missing meant
      exact_iff := iff_of_false (fun placed => placed.1 missing) fun ⟨i, hi, same⟩ => meant i hi same.1
      substitute_iff := iff_of_false kept fun ⟨⟨i, hi, same⟩, _⟩ => meant i hi same
      apart _ := kept
      missing _ := there
      exact resolved := absurd missing resolved
      substitute replaced := absurd replaced kept }
  | exact i =>
    rw [slot] at there meant
    have resolved : b ∉ (ofStored l items).unresolved := by simp [mem_unresolved, h, slot]
    have kept : b ∉ (ofStored l items).substituted := by simp [mem_substituted, h, slot]
    exact {
      missing_iff := iff_of_false resolved fun none => none i meant.mem meant.1.1
      exact_iff := iff_of_true ⟨resolved, kept⟩ ⟨i, meant.mem, meant.1⟩
      substitute_iff := iff_of_false kept fun other => other.2 ⟨i, meant.mem, meant.1⟩
      apart _ := kept
      missing missing := absurd missing resolved
      exact _ _ := ⟨i, there, meant⟩
      substitute replaced := absurd replaced kept }
  | substitute i =>
    rw [slot] at there meant
    obtain ⟨none, first⟩ := meant
    have resolved : b ∉ (ofStored l items).unresolved := by simp [mem_unresolved, h, slot]
    have replaced : b ∈ (ofStored l items).substituted := mem_substituted.mpr ⟨stored, h, i, slot⟩
    exact {
      missing_iff := iff_of_false resolved fun none => none i first.mem first.1
      exact_iff := iff_of_false (fun placed => placed.2 replaced) fun ⟨j, hj, same⟩ => none j hj same
      substitute_iff := iff_of_true replaced ⟨⟨i, first.mem, first.1⟩, fun ⟨j, hj, same⟩ => none j hj same⟩
      apart missing := absurd missing resolved
      missing missing := absurd missing resolved
      exact _ kept := absurd replaced kept
      substitute _ := ⟨i, there, first⟩ }

/-- **A stored loadout is restored bucket by bucket**, whatever the items: each reference is in exactly one of three
classes, the lists of buckets are in order without repetition, and no other bucket holds anything. -/
theorem classified_ofStored (l : StoredLoadout) (p : Profile) :
    (∀ b stored, l.get? b = some stored → Classified p.items (ofStored l p.items) b stored) ∧
    (∀ b, l.get? b = none → b ∉ (ofStored l p.items).unresolved ∧ b ∉ (ofStored l p.items).substituted ∧
      (ofStored l p.items).loadout.get? b = none) ∧
    (ofStored l p.items).unresolved.Pairwise (fun b c => b.index < c.index) ∧
    (ofStored l p.items).substituted.Pairwise fun b c => b.index < c.index := by
  refine ⟨fun b stored h => classified h, fun b h => ⟨?_, ?_, ?_⟩, ?_, ?_⟩
  · simp [mem_unresolved, h]
  · simp [mem_substituted, h]
  · rw [get?_ofStored, h, Option.bind_none]
  · rw [ofStored_eq]
    exact ascends_filter_entries l _
  · rw [ofStored_eq]
    exact ascends_filter_entries l _

end Restored
end Armory
