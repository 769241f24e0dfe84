import Armory.Proofs.Gear.Delivery
import Armory.Proofs.Item.Choice

/-! What is done before a loadout moves. The plan is made from a profile: what other characters wear of the loadout
is replaced there, and full buckets of the destination give something away. Main statements: in an orderly
profile every such target comes off (`Simulation.Shows.replace`), and what is given away is never worn and
never a target (`Equip.evictions_free`). -/
namespace Armory

variable {p : Profile} {l : Loadout} {destination holder : CharacterId} {items : List Item}
  {i j : Item} {b : Bucket}

/-! ## Profiles in which items can be told apart -/

/-- A profile in which instanced items have distinct numbers, gear is instanced, and no character wears two
items of one bucket. -/
structure Profile.Orderly (p : Profile) : Prop where
  numbered : ∀ i ∈ p.items, i.instanceId.isSome → i.numericId?.isSome
  distinct : (p.items.filterMap (·.numericId?)).Nodup
  instanced : ∀ i ∈ p.items, Simulation.isBucket i.bucketHash → i.instanceId.isSome
  oneWorn : ∀ c ∈ p.characters, ∀ b,
    p.items.countP (fun i => i.isIn c.id b && i.isEquipped) ≤ 1

namespace Profile.Orderly

theorem gear_instanced (h : p.Orderly) (hi : i ∈ p.items)
    (hb : Catalog.standard.bucketOf? i.bucketHash = some b) : i.instanceId.isSome :=
  h.instanced i hi (by simp [Simulation.isBucket, hb])

theorem lone_numericId (h : p.Orderly) (hi : i ∈ p.items) {id : Int}
    (hid : i.numericId? = some id) : Lone (·.numericId? == some id) i p.items :=
  Lone.of_nodup h.distinct hi hid

theorem lone_sameInstance (h : p.Orderly) (hi : i ∈ p.items) (single : i.instanceId.isSome) :
    Lone (·.sameInstance i) i p.items := by
  obtain ⟨id, hid⟩ := Option.isSome_iff_exists.mp (h.numbered i hi single)
  refine (h.lone_numericId hi hid).narrow ?_ (by simp [Item.sameInstance])
  intro x _ hx
  have hinstance : x.instanceId = i.instanceId := by
    simp only [Item.sameInstance, Bool.and_eq_true, beq_iff_eq] at hx
    exact hx.2
  have hsame : x.numericId? = i.numericId? := by rw [Item.numericId?, hinstance, ← Item.numericId?]
  simp [hsame, hid]

end Profile.Orderly

/-! ## What others can wear instead -/

namespace Equip

/-- An item that a holder can put on instead of another one. -/
structure Replaces (p : Profile) (holder : CharacterId) (i s : Item) : Prop where
  mem : s ∈ p.items
  held : s.owner = some holder
  bucket : s.bucketHash = i.bucketHash
  plain : s.tier ≠ .exotic
  wearable : s.canEquip = true
  accepted : ∀ c, p.character? holder = some c → s.guardian.accepts c.guardian = true
  instanced : s.instanceId.isSome
  other : s.sameInstance i = false

theorem mem_substitutes {s : Item} : s ∈ substitutes i holder p ↔ Replaces p holder i s := by
  unfold substitutes
  constructor
  · intro h
    cases hc : p.character? holder <;>
      simp only [hc, Item.mem_weakestFirst, List.mem_filter, Filter.mem_select] at h <;>
      simp [Filter.accepts] at h <;>
      constructor <;> simp_all
  · intro h
    obtain ⟨mem, held, bucket, plain, wearable, accepted, instanced, other⟩ := h
    cases hc : p.character? holder <;>
      simp only [Item.mem_weakestFirst, List.mem_filter, Filter.mem_select] <;>
      simp_all [Filter.accepts]

/-- If something can be put on instead, something is. -/
theorem exists_substitute? {s : Item} (h : Replaces p holder i s) :
    ∃ s id, substitute? i holder p = some (s, id) ∧ s.instanceId = some id ∧
      Replaces p holder i s := by
  have hs := mem_substitutes.mpr h
  cases hlist : substitutes i holder p with
  | nil =>
    rw [hlist] at hs
    cases hs
  | cons first rest =>
    have hfirst : Replaces p holder i first := mem_substitutes.mp (hlist ▸ List.mem_cons_self)
    obtain ⟨id, hid⟩ := Option.isSome_iff_exists.mp hfirst.instanced
    exact ⟨first, id, by simp [substitute?, hlist, hid], hid, hfirst⟩

/-! ## Loadouts that can be put on -/

/-- A loadout of items of the profile, each in the bucket of its hash, where every other character that
wears one of them has something to wear instead. -/
structure Realisable (p : Profile) (l : Loadout) (destination : CharacterId) : Prop where
  filed : ∀ b i, l.get? b = some i →
    i ∈ p.items ∧ Catalog.standard.bucketOf? i.bucketHash = some b
  replaceable : ∀ b i holder, l.get? b = some i → i.equippedOn holder = true →
    holder ≠ destination → ∃ s, Replaces p holder i s

end Equip

theorem Loadout.mem_items : i ∈ l.items ↔ ∃ b, l.get? b = some i := by
  simp only [items, List.mem_map, Prod.exists]
  constructor
  · rintro ⟨b, j, h, rfl⟩
    exact ⟨b, mem_entries.mp h⟩
  · rintro ⟨b, h⟩
    exact ⟨b, i, mem_entries.mpr h, rfl⟩

/-- One item for each of some buckets of a loadout: no two of them share a bucket hash. -/
theorem Loadout.pairwise_filterMap_entries {f : Bucket × Item → Option Item}
    (filed : ∀ b i j, l.get? b = some i → f (b, i) = some j →
      Catalog.standard.bucketOf? j.bucketHash = some b) :
    (l.entries.filterMap f).Pairwise fun i j => i.bucketHash ≠ j.bucketHash := by
  have hfiled : ∀ b j, ((l.get? b).map (b, ·)).bind f = some j →
      Catalog.standard.bucketOf? j.bucketHash = some b := by
    intro b j hj
    obtain ⟨e, he, hf⟩ := Option.bind_eq_some_iff.mp hj
    obtain ⟨i, hi, rfl⟩ := Option.map_eq_some_iff.mp he
    exact filed b i j hi hf
  rw [entries, List.filterMap_filterMap, List.pairwise_filterMap]
  refine Bucket.all_nodup.imp ?_
  intro b b' hne i hi j hj hsame
  have hb := hfiled b i hi
  rw [hsame, hfiled b' j hj] at hb
  exact hne (Option.some.inj hb).symm

namespace Equip.Realisable

/-- A loadout has one item for a bucket hash. -/
theorem eq_of_bucketHash (h : Realisable p l destination) (hi : i ∈ l.items) (hj : j ∈ l.items)
    (same : i.bucketHash = j.bucketHash) : i = j := by
  obtain ⟨b, hb⟩ := Loadout.mem_items.mp hi
  obtain ⟨b', hb'⟩ := Loadout.mem_items.mp hj
  have hfiled := (h.filed b i hb).2
  rw [same, (h.filed b' j hb').2] at hfiled
  have hbb := Option.some.inj hfiled
  subst hbb
  exact Option.some.inj (hb.symm.trans hb')

theorem mem (h : Realisable p l destination) (hi : i ∈ l.items) : i ∈ p.items := by
  obtain ⟨b, hb⟩ := Loadout.mem_items.mp hi
  exact (h.filed b i hb).1

theorem instanced (h : Realisable p l destination) (orderly : p.Orderly) (hi : i ∈ l.items) :
    i.instanceId.isSome := by
  obtain ⟨b, hb⟩ := Loadout.mem_items.mp hi
  exact orderly.gear_instanced (h.filed b i hb).1 (h.filed b i hb).2

theorem items_apart (h : Realisable p l destination) :
    l.items.Pairwise fun i j => i.bucketHash ≠ j.bucketHash := by
  have hitems : l.items = l.entries.filterMap fun e => some e.2 := by
    exact (congrFun List.filterMap_eq_map l.entries).symm
  rw [hitems]
  refine Loadout.pairwise_filterMap_entries ?_
  intro b i j hi hj
  cases hj
  exact (h.filed b i hi).2

end Equip.Realisable

/-! ## Replacing what others wear -/

namespace Equip

theorem mem_wornElsewhere :
    (b, i, holder) ∈ wornElsewhere l destination ↔
      l.get? b = some i ∧ i.equippedOn holder = true ∧ holder ≠ destination := by
  unfold wornElsewhere
  simp only [List.mem_filterMap, Prod.exists, Loadout.mem_entries]
  constructor
  · rintro ⟨b', i', hget, h⟩
    cases ho : i'.owner with
    | none => simp [ho] at h
    | some c =>
      simp only [ho] at h
      split at h
      · rename_i hc
        cases h
        exact ⟨hget, by simp_all [Item.equippedOn, Item.ownedBy], by simp_all⟩
      · cases h
  · rintro ⟨hget, hworn, hne⟩
    refine ⟨b, i, hget, ?_⟩
    simp only [Item.equippedOn, Item.ownedBy, Bool.and_eq_true, beq_iff_eq] at hworn
    simp [hworn.2, hworn.1, hne]

/-- The report of a replacement that succeeds. -/
def replaced (p : Profile) : Bucket × Item × CharacterId → Swap
  | (b, i, holder) =>
    ⟨holder, b, i.itemHash, (substitute? i holder p).map (·.1.itemHash), some .completed⟩

/-- What the replacements make of a placement: everything stays with its owner, the destination wears
what it wore, and the targets that others wore have come off, as far as that is done. -/
structure Undressed (l : Loadout) (destination : CharacterId)
    (done : List (Bucket × Item × CharacterId)) (π : Placement) : Prop where
  owners : ∀ i, (π i).owner = i.owner
  kept : ∀ i, i.owner = some destination → (π i).worn = i.isEquipped
  off : ∀ i ∈ l.items, ∀ c, i.owner = some c → c ≠ destination →
    (i.isEquipped = true → ∃ b, (b, i, c) ∈ done) → (π i).worn = false

theorem undressed_reported (l : Loadout) (destination : CharacterId) :
    Undressed l destination [] .reported where
  owners _ := rfl
  kept _ _ := rfl
  off i _ c _ _ hdone := by
    cases hworn : i.isEquipped with
    | false => exact hworn
    | true =>
      obtain ⟨b, hb⟩ := hdone hworn
      cases hb

/-- One more replacement takes off one more target and touches no other. -/
theorem Undressed.wear {π : Placement} {done : List (Bucket × Item × CharacterId)} {s : Item}
    (h : Undressed l destination done π) (realisable : Realisable p l destination)
    (target : i ∈ l.items) (elsewhere : holder ≠ destination) (owned : i.owner = some holder)
    (replaces : Replaces p holder i s) :
    Undressed l destination (done ++ [(b, i, holder)]) (π.wear s) where
  owners j := by rw [Placement.owner_wear, h.owners]
  kept j hj := by
    have hne : (π j).owner ≠ (π s).owner := by
      rw [h.owners, h.owners, hj, replaces.held]
      exact fun e => elsewhere (Option.some.inj e).symm
    rw [Placement.wear_of_owner_ne hne, h.kept j hj]
  off j hj c hc hne hdone := by
    by_cases hji : j = i
    · -- the target itself gives way to its replacement
      subst hji
      have hjs : j ≠ s := by
        rintro rfl
        simpa [Item.sameInstance] using replaces.other
      refine Placement.worn_wear_of_ne hjs ?_ replaces.bucket.symm
      rw [h.owners, h.owners, owned, replaces.held]
    · -- another target has another bucket hash
      have hbucket : j.bucketHash ≠ s.bucketHash := by
        rw [replaces.bucket]
        exact fun e => hji (realisable.eq_of_bucketHash hj target e)
      rw [Placement.wear_of_bucketHash_ne hbucket]
      refine h.off j hj c hc hne fun hworn => ?_
      obtain ⟨b', hb'⟩ := hdone hworn
      rcases List.mem_append.mp hb' with hmem | hmem
      · exact ⟨b', hmem⟩
      · exact absurd (congrArg (·.2.1) (List.mem_singleton.mp hmem)) hji

end Equip

namespace Simulation.Shows

variable {s : Simulation} {π : Placement}

/-- A call to wear one item dresses its holder. -/
theorem equipOne (h : s.Shows p.items π) (free : s.failing = []) (orderly : p.Orderly)
    (mem : i ∈ p.items) {id : String} (hid : i.instanceId = some id)
    (held : (π i).owner = some holder) (membershipType : Int) :
    ∃ t : Simulation, s.equipOne ⟨id, holder, membershipType⟩ = (.ok (), t) ∧
      t.Shows p.items (π.wear i) ∧ t.failing = [] := by
  obtain ⟨n, hn⟩ := Option.isSome_iff_exists.mp (orderly.numbered i mem (by rw [hid]; rfl))
  obtain ⟨t, ht, shows, failing⟩ := h.equip (orderly.lone_numericId mem hn) held
    (by rw [free]; rfl) []
  have hparse : parseLong? id = some n := by simpa [Item.numericId?, hid] using hn
  refine ⟨t, ?_, shows, failing.trans free⟩
  simp only [Simulation.equipOne, hparse]
  exact ht

/-- **Phase one**: every target that another character wears comes off, and no replacement fails. -/
theorem replace (h : s.Shows p.items .reported) (free : s.failing = []) (orderly : p.Orderly)
    (realisable : Equip.Realisable p l destination) :
    ∃ π, Ends (Dialogue.run answer
        (Dialogue.each (fun (b, i, holder) => Equip.swap b i holder p)
          (Equip.wornElsewhere l destination)) s)
      ((Equip.wornElsewhere l destination).map (Equip.replaced p)) p.items π ∧
      Equip.Undressed l destination (Equip.wornElsewhere l destination) π := by
  have goes := Dialogue.run_each_values answer
    (fun (b, i, holder) => Equip.swap b i holder p)
    (fun done t => t.failing = [] ∧
      ∃ π, t.Shows p.items π ∧ Equip.Undressed l destination done π)
    (Equip.replaced p) (Equip.wornElsewhere l destination) s
    ⟨free, .reported, h, Equip.undressed_reported l destination⟩ ?_
  · obtain ⟨values, free, π, shows, undressed⟩ := goes
    exact ⟨π, ⟨values, shows, free⟩, undressed⟩
  · rintro done ⟨b, i, holder⟩ rest t hsplit ⟨free, π, shows, undressed⟩
    have hmem : (b, i, holder) ∈ Equip.wornElsewhere l destination := by simp [hsplit]
    obtain ⟨hget, hworn, hne⟩ := Equip.mem_wornElsewhere.mp hmem
    have target : i ∈ l.items := Loadout.mem_items.mpr ⟨b, hget⟩
    have owned : i.owner = some holder := by
      simp only [Item.equippedOn, Item.ownedBy, Bool.and_eq_true, beq_iff_eq] at hworn
      exact hworn.2
    obtain ⟨s, hs⟩ := realisable.replaceable b i holder hget hworn hne
    obtain ⟨s, id, hsub, hid, replaces⟩ := Equip.exists_substitute? hs
    obtain ⟨u, hu, shows', free'⟩ := shows.equipOne free orderly replaces.mem hid
      ((undressed.owners s).trans replaces.held) p.membershipType
    have undressed' := undressed.wear (b := b) realisable target hne owned replaces
    simp only [Equip.swap, Equip.replaced, hsub, Dialogue.run_ask, answer, hu, Dialogue.run_done]
    exact ⟨rfl, free', _, shows', undressed'⟩

end Simulation.Shows

/-! ## Making room -/

namespace Profile

variable {characters : List Character}

/-- What a character of an orderly profile carries without wearing it. -/
theorem Orderly.unequipped (h : (ofItems characters items).Orderly)
    (member : ∃ c ∈ (ofItems characters items).characters, c.id = destination)
    (hj : j ∈ ((ofItems characters items).contents destination b).unequipped) :
    j ∈ items ∧ j.isIn destination b = true ∧ j.isEquipped = false := by
  rw [contents_ofItems] at hj
  obtain ⟨c, hc, rfl⟩ := member
  have one : (items.filter (·.isIn c.id b)).countP (·.isEquipped) ≤ 1 := by
    rw [List.countP_filter]
    have hone := h.oneWorn c hc b
    rw [items_ofItems] at hone
    simpa [Bool.and_comm] using hone
  obtain ⟨hmem, hin⟩ := List.mem_filter.mp (Contents.mem_of_mem_unequipped hj)
  exact ⟨hmem, hin, Contents.not_worn_of_mem_unequipped one hj⟩

theorem contents_eq {e : Equipment} (he : p.equipment? destination = some e) (b : Bucket) :
    e.contents b = p.contents destination b := by
  rw [contents, he, Option.getD_some]

theorem exists_equipment?_ofItems
    (member : ∃ c ∈ (ofItems characters items).characters, c.id = destination) :
    ∃ e, (ofItems characters items).equipment? destination = some e := by
  refine Option.isSome_iff_exists.mp (isSome_equipment?_ofItems ?_ items)
  obtain ⟨c, hc, hid⟩ := member
  rw [characters_ofItems] at hc
  exact ⟨c, List.mem_mergeSort.mp hc, hid⟩

theorem exists_requireCharacter (member : ∃ c ∈ p.characters, c.id = destination) :
    ∃ c, p.requireCharacter destination = .ok c := by
  obtain ⟨c, hmem, hid⟩ := member
  have hsome : (p.character? destination).isSome := by
    rw [character?, List.find?_isSome]
    exact ⟨c, hmem, by simpa using hid⟩
  obtain ⟨c', hc'⟩ := Option.isSome_iff_exists.mp hsome
  exact ⟨c', by rw [requireCharacter, hc']⟩

theorem occupancy_ofItems (characters : List Character) (items : List Item) (id : CharacterId)
    (b : Bucket) :
    ((ofItems characters items).contents id b).occupancy = items.countP (·.isIn id b) := by
  rw [contents_ofItems, Contents.occupancy_pushAll, List.countP_eq_length_filter]
  exact Nat.zero_add _

end Profile

namespace Equip

variable {characters : List Character}

/-- What leaves a bucket is carried there without being worn, and is no target. -/
theorem victim?_spec {e : Equipment} {v : Item}
    (orderly : (Profile.ofItems characters items).Orderly)
    (member : ∃ c ∈ (Profile.ofItems characters items).characters, c.id = destination)
    (he : (Profile.ofItems characters items).equipment? destination = some e)
    (h : victim? l e b = some v) :
    v ∈ items ∧ v.isIn destination b = true ∧ v.isEquipped = false ∧ v ∉ l.items := by
  have hmem : v ∈ ((Profile.ofItems characters items).contents destination b).unequipped := by
    have hfound := List.mem_reverse.mp (List.mem_of_find?_eq_some h)
    rwa [Equipment.unequipped, Profile.contents_eq he] at hfound
  obtain ⟨hitems, hin, hworn⟩ := orderly.unequipped member hmem
  refine ⟨hitems, hin, hworn, fun hl => ?_⟩
  have hnot := List.find?_some h
  simp only [Bool.not_eq_true', List.any_eq_false] at hnot
  exact hnot v hl (by simp [Item.sameInstance])

/-- Where the target of a bucket is elsewhere, nothing that is carried there is a target. -/
theorem not_target {u : Item} (orderly : p.Orderly) (realisable : Realisable p l destination)
    (hget : l.get? b = some i) (away : i.owner ≠ some destination) (hu : u ∈ p.items)
    (hin : u.isIn destination b = true) : l.items.any (·.sameInstance u) = false := by
  obtain ⟨howner, hbucket⟩ := Item.isIn_iff.mp hin
  rw [List.any_eq_false]
  intro t ht hsame
  have only := orderly.lone_sameInstance hu (orderly.gear_instanced hu hbucket)
  obtain rfl := only.eq_of_mem (realisable.mem ht) hsame
  obtain rfl := realisable.eq_of_bucketHash ht (Loadout.mem_items.mpr ⟨b, hget⟩)
    (bucketOf?_standard_inj hbucket (realisable.filed b i hget).2)
  exact away howner

/-- A full bucket that is to receive a target has something to give away. -/
theorem exists_victim? {e : Equipment} (orderly : (Profile.ofItems characters items).Orderly)
    (realisable : Realisable (Profile.ofItems characters items) l destination)
    (member : ∃ c ∈ (Profile.ofItems characters items).characters, c.id = destination)
    (he : (Profile.ofItems characters items).equipment? destination = some e)
    (hget : l.get? b = some i) (away : i.owner ≠ some destination)
    (hfull : Bucket.capacity ≤ e.occupancy b) : ∃ v, victim? l e b = some v := by
  -- at most one of ten items is in the slot
  have hlong : 0 < (e.unequipped b).length := by
    have hoccupancy : e.occupancy b ≤ 1 + (e.unequipped b).length := by
      unfold Equipment.occupancy Equipment.unequipped Contents.occupancy
      split <;> omega
    have hcap : Bucket.capacity = 10 := rfl
    omega
  obtain ⟨u, hu⟩ := List.exists_mem_of_length_pos hlong
  have hcarried := hu
  rw [Equipment.unequipped, Profile.contents_eq he] at hcarried
  obtain ⟨hitems, hin, -⟩ := orderly.unequipped member hcarried
  rw [← Profile.items_ofItems characters items] at hitems
  refine Option.isSome_iff_exists.mp ?_
  rw [victim?, List.find?_isSome]
  exact ⟨u, List.mem_reverse.mpr hu, by
    rw [not_target orderly realisable hget away hitems hin]
    rfl⟩

/-- The items that make room: every one of them is carried by the destination, is not worn and is no
target; and every full bucket that is to receive a target loses one. -/
structure Frees (items : List Item) (l : Loadout) (destination : CharacterId)
    (victims : List Item) : Prop where
  held : ∀ v ∈ victims, v ∈ items ∧ v.isEquipped = false ∧ v ∉ l.items ∧
    ∃ b, v.isIn destination b = true
  apart : victims.Pairwise fun i j => i.bucketHash ≠ j.bucketHash
  full : ∀ b i, l.get? b = some i → i.owner ≠ some destination →
    Bucket.capacity ≤ items.countP (·.isIn destination b) →
    ∃ v ∈ victims, v.isIn destination b = true

theorem evictions_free (orderly : (Profile.ofItems characters items).Orderly)
    (realisable : Realisable (Profile.ofItems characters items) l destination)
    (member : ∃ c ∈ (Profile.ofItems characters items).characters, c.id = destination) :
    Frees items l destination (evictions l destination (Profile.ofItems characters items)) := by
  obtain ⟨e, he⟩ := Profile.exists_equipment?_ofItems member
  have spec : ∀ b v, victim? l e b = some v →
      v ∈ items ∧ v.isIn destination b = true ∧ v.isEquipped = false ∧ v ∉ l.items :=
    fun b v => victim?_spec orderly member he
  simp only [evictions, he]
  constructor
  case held =>
    intro v hv
    obtain ⟨⟨b, i⟩, -, hv⟩ := List.mem_filterMap.mp hv
    simp only [Option.ite_none_left_eq_some] at hv
    obtain ⟨hitems, hin, hworn, hl⟩ := spec b v hv.2
    exact ⟨hitems, hworn, hl, b, hin⟩
  case apart =>
    refine Loadout.pairwise_filterMap_entries fun b i v hi hv => ?_
    simp only [Option.ite_none_left_eq_some] at hv
    exact (Item.isIn_iff.mp (spec b v hv.2).2.1).2
  case full =>
    intro b i hget away hfull
    rw [← Profile.occupancy_ofItems characters, ← Profile.contents_eq he,
      ← Equipment.occupancy] at hfull
    obtain ⟨v, hv⟩ := exists_victim? orderly realisable member he hget away hfull
    refine ⟨v, List.mem_filterMap.mpr ⟨(b, i), Loadout.mem_entries.mpr hget, ?_⟩, (spec b v hv).2.1⟩
    have hroom : ¬ e.occupancy b < Bucket.capacity := by omega
    simpa [Item.ownedBy, away, hroom] using hv

end Equip
end Armory
