import Mathlib.Data.List.Pairwise
import Armory.Proofs.Loadout.Encoding
import Armory.Proofs.Profile.Reported

/-! Finding a stored loadout again. What is decided of one bucket is not touched by the references that follow
(`Restored.ofStored_eq`). A reference is found exactly among items that can be told apart, and what a character of a
snapshot wears is among the items of its profile. Main statement: what is stored of a loadout is restored as it was
(`Restored.ofStored_ofLoadout`). -/
namespace Armory

variable {l : Loadout} {b : Bucket} {i j : Item} {items : List Item}

/-- Items of which no two that have an identity are of the same kind and have the same identity. -/
def Item.ToldApart (items : List Item) : Prop :=
  (items.filter (·.instanceId.isSome)).Pairwise fun i j => i.sameInstance j = false

theorem Item.sameInstance_symm : Std.Symm fun i j : Item => i.sameInstance j = false where
  symm i j h := by
    rw [← h, sameInstance, sameInstance, Bool.beq_comm (a := j.itemHash),
      Bool.beq_comm (a := j.instanceId)]

theorem Item.ToldApart.eq_of_sameInstance (h : ToldApart items) (hi : i ∈ items) (hj : j ∈ items)
    (single : i.instanceId.isSome) (same : i.sameInstance j = true) : i = j := by
  have single' : j.instanceId.isSome := by
    simp only [Item.sameInstance, Bool.and_eq_true, beq_iff_eq] at same
    rwa [← same.2]
  by_contra different
  have := Item.sameInstance_symm
  have other : i.sameInstance j = false := h.forall (List.mem_filter.mpr ⟨hi, single⟩)
    (List.mem_filter.mpr ⟨hj, single'⟩) different
  rw [same] at other
  cases other

namespace Restored

/-! ## One reference after the other -/

/-- A reference decides on its own bucket. -/
theorem get?_settle (items : List Item) (r : Restored) (e : Bucket × StoredItem) (b : Bucket) :
    (settle items r e).loadout.get? b =
      if b = e.1 then (find items e.2).item?.or (r.loadout.get? b) else r.loadout.get? b := by
  unfold settle
  cases find items e.2 <;> simp [Slot.item?]

theorem unresolved_settle (items : List Item) (r : Restored) (e : Bucket × StoredItem) :
    (settle items r e).unresolved =
      r.unresolved ++ (([e].filter fun e => find items e.2 matches .missing).map (·.1)) := by
  unfold settle
  cases h : find items e.2 <;> simp [h]

theorem substituted_settle (items : List Item) (r : Restored) (e : Bucket × StoredItem) :
    (settle items r e).substituted =
      r.substituted ++ (([e].filter fun e => find items e.2 matches .substitute _).map (·.1)) := by
  unfold settle
  cases h : find items e.2 <;> simp [h]

/-- References of buckets that differ, taken one after the other. -/
theorem foldl_settle (items : List Item) {es : List (Bucket × StoredItem)} (once : (es.map (·.1)).Nodup)
    (r : Restored) :
    es.foldl (settle items) r =
      { loadout := ⟨fun b => ((es.lookup b).bind fun s => (find items s).item?).or (r.loadout.get? b)⟩
        unresolved := r.unresolved ++ (es.filter fun e => find items e.2 matches .missing).map (·.1)
        substituted := r.substituted ++ (es.filter fun e => find items e.2 matches .substitute _).map (·.1) } := by
  induction es generalizing r with
  | nil => simp
  | cons e es ih =>
    obtain ⟨c, s⟩ := e
    obtain ⟨fresh, once⟩ := List.nodup_cons.mp once
    rw [List.foldl_cons, ih once, unresolved_settle, substituted_settle]
    congr 1
    · ext1
      funext b
      simp only [get?_settle]
      by_cases h : b = c
      · subst h
        -- the bucket does not come again, so what is decided of it now stays
        simp [StoredLoadout.lookup_of_fresh fresh]
      · have other : (b == c) = false := by simpa using h
        simp [List.lookup_cons, other, h]
    · simp only [List.append_assoc, ← List.map_append, ← List.filter_append, List.singleton_append]
    · simp only [List.append_assoc, ← List.map_append, ← List.filter_append, List.singleton_append]

/-- **Taking the references one after the other** gives each bucket what its own reference means. -/
theorem ofStored_eq (l : StoredLoadout) (items : List Item) :
    ofStored l items =
      { loadout := ⟨fun b => (l.get? b).bind fun stored => (find items stored).item?⟩
        unresolved := (l.entries.filter fun e => find items e.2 matches .missing).map (·.1)
        substituted := (l.entries.filter fun e => find items e.2 matches .substitute _).map (·.1) } := by
  have whole := foldl_settle items l.entries_nodup ⟨.empty, [], []⟩
  simp only [StoredLoadout.lookup_entries, Loadout.get?_empty, Option.or_none, List.nil_append] at whole
  exact whole

/-! ## What was stored of a loadout -/

/-- **A reference is found exactly**, if its item is there and can be told apart from all others. -/
theorem find_eq_exact (apart : Item.ToldApart items) (hi : i ∈ items) (single : i.instanceId.isSome) :
    find items ⟨i.itemHash, i.instanceId, i.bucketHash⟩ = .exact i := by
  obtain ⟨id, hid⟩ := Option.isSome_iff_exists.mp single
  have kind : i ∈ items.filter (·.itemHash == i.itemHash) := List.mem_filter.mpr ⟨hi, by simp⟩
  have found : (items.filter (·.itemHash == i.itemHash)).find? (·.instanceId == some id) = some i := by
    obtain ⟨j, hj⟩ : ∃ j,
        (items.filter (·.itemHash == i.itemHash)).find? (·.instanceId == some id) = some j := by
      rw [← Option.isSome_iff_exists, List.find?_isSome]
      exact ⟨i, kind, by simp [hid]⟩
    obtain ⟨mem, same⟩ := List.mem_filter.mp (List.mem_of_find?_eq_some hj)
    have numbered := List.find?_some (p := fun j : Item => j.instanceId == some id) hj
    rw [beq_iff_eq] at same numbered
    rw [hj, apart.eq_of_sameInstance hi mem single]
    simp [Item.sameInstance, same, numbered, hid]
  unfold find
  cases first : items.filter (·.itemHash == i.itemHash) with
  | nil =>
    rw [first] at kind
    cases kind
  | cons k rest =>
    rw [first] at found
    simp only [hid, Option.bind_some, found]

theorem entries_ofLoadout (l : Loadout) :
    (StoredLoadout.ofLoadout l).entries =
      l.entries.map fun e => (e.1, ⟨e.2.itemHash, e.2.instanceId, e.2.bucketHash⟩) := by
  simp only [StoredLoadout.entries, Loadout.entries, StoredLoadout.ofLoadout, List.map_filterMap]
  congr 1
  funext b
  cases l.get? b <;> rfl

/-- **What is stored of a loadout is restored as it was**, if its items are there and each of them can be told
apart from all others. -/
theorem ofStored_ofLoadout (apart : Item.ToldApart items) (there : ∀ i ∈ l.items, i ∈ items)
    (single : ∀ i ∈ l.items, i.instanceId.isSome) :
    ofStored (.ofLoadout l) items = ⟨l, [], []⟩ := by
  have exact : ∀ e ∈ l.entries,
      find items ⟨e.2.itemHash, e.2.instanceId, e.2.bucketHash⟩ = .exact e.2 := by
    intro e he
    have hi : e.2 ∈ l.items := List.mem_map_of_mem he
    exact find_eq_exact apart (there _ hi) (single _ hi)
  have restored : ∀ b, ((l.get? b).bind fun i =>
      (find items ⟨i.itemHash, i.instanceId, i.bucketHash⟩).item?) = l.get? b := by
    intro b
    cases h : l.get? b with
    | none => rfl
    | some i =>
      rw [Option.bind_some, exact (b, i) (Loadout.mem_entries.mpr h)]
      rfl
  have none : ∀ p : Bucket × StoredItem → Bool,
      (∀ e i, find items e.2 = .exact i → p e = false) →
      (StoredLoadout.ofLoadout l).entries.filter p = [] := by
    intro p hp
    rw [List.filter_eq_nil_iff, entries_ofLoadout]
    intro e he
    obtain ⟨e', he', rfl⟩ := List.mem_map.mp he
    rw [hp _ _ (exact e' he')]
    exact Bool.false_ne_true
  rw [ofStored_eq, none _ fun e i h => by rw [h], none _ fun e i h => by rw [h]]
  congr 1
  ext1
  funext b
  rw [← restored b]
  cases h : l.get? b <;> simp [StoredLoadout.ofLoadout, h]

end Restored

/-! ## What the current character wears -/

namespace Profile

variable {s : Snapshot} {c : Catalog} {id : CharacterId}

/-- What a character of a snapshot wears is among the items of its profile. -/
theorem mem_items_of_loadout? (found : (assemble s c false).loadout? id = some l)
    (h : l.get? b = some i) : i ∈ (assemble s c false).items := by
  obtain ⟨reported, hr, rfl, rfl⟩ := exists_of_get?_ofList found
  obtain ⟨w, hw, rfl⟩ := List.mem_map.mp (Catalog.mem_of_get?_loadoutOf h)
  have resolved : w ∈ s.resolvedItems c :=
    List.mem_append_right _ (List.mem_flatMap.mpr ⟨reported, hr, List.mem_append_left _ hw⟩)
  exact List.mem_map.mpr ⟨w, List.mem_filter.mpr ⟨resolved, rfl⟩, rfl⟩

end Profile
end Armory
