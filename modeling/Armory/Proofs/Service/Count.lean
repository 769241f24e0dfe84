import Armory.Proofs.Item.Choice
import Armory.Proofs.Profile.Views
import Armory.Proofs.Service.Partners
import Armory.Service.Items

/-! How much there is of an item. The holdings are made up item by item, and each item adds to the place of its owner
alone (`Service.Tallied.add`). Every owner in the profile of a snapshot is a character of it, so that no two owners
share a place. Main statement: a count has one holding for each owner, with the sum of what is its own, and the total
is the sum of everything (`Service.countItem_counted`); the sums are kept in 32 bits, and are exact if everything fits
into these. -/
namespace Armory

/-! ## Owners -/

namespace Profile

/-- Every item belongs to a character of the profile, or lies in the vault. -/
def OwnersKnown (p : Profile) : Prop := ∀ i ∈ p.items, ∀ id, i.owner = some id → (p.character? id).isSome

theorem ownersKnown_assemble (s : Snapshot) (c : Catalog) : (assemble s c false).OwnersKnown := by
  intro i hi id own
  obtain ⟨e, he, rfl⟩ := exists_of_owner hi own
  rw [character?, List.find?_isSome]
  exact ⟨e.character, List.mem_mergeSort.mpr (List.mem_map_of_mem he), by simp⟩

end Profile

namespace Service

variable {p : Profile} {items : List Item} {holdings : List Holding} {here l : Location} {h : Holding} {i : Item}
  {owner : Option CharacterId} {n : Nat} {hash : Hash}

/-- The character at a place; nobody is in the vault. -/
def Location.owner? : Location → Option CharacterId
  | .character id _ => some id
  | .vault => none

theorem exists_locationOf {id : CharacterId} (known : (p.character? id).isSome) :
    ∃ ch, p.character? id = some ch ∧ locationOf p (some id) = .character id ch.guardian := by
  obtain ⟨ch, found⟩ := Option.isSome_iff_exists.mp known
  have same : ch.id = id := by simpa using List.find?_some found
  exact ⟨ch, found, by simp [locationOf, found, same]⟩

/-- A place tells whose it is. -/
theorem owner?_locationOf (known : ∀ id, owner = some id → (p.character? id).isSome) :
    (locationOf p owner).owner? = owner := by
  cases owner with
  | none => rfl
  | some id =>
    obtain ⟨ch, -, place⟩ := exists_locationOf (known id rfl)
    rw [place, Location.owner?]

/-! ## One more item -/

theorem mem_locations_addHolding :
    l ∈ (addHolding here n holdings).map (·.location) ↔ l ∈ holdings.map (·.location) ∨ l = here := by
  induction holdings with
  | nil => simp [addHolding]
  | cons h rest ih =>
    unfold addHolding
    split
    · rename_i same
      simp only [List.map_cons, List.mem_cons, same]
      tauto
    · simp only [List.map_cons, List.mem_cons, ih, or_assoc]

theorem apart_addHolding (apart : (holdings.map (·.location)).Nodup) :
    ((addHolding here n holdings).map (·.location)).Nodup := by
  induction holdings with
  | nil => simp [addHolding]
  | cons h rest ih =>
    obtain ⟨fresh, apart'⟩ := List.nodup_cons.mp apart
    unfold addHolding
    split
    · exact apart
    · rename_i other
      refine List.nodup_cons.mpr ⟨fun again => ?_, ih apart'⟩
      rcases mem_locations_addHolding.mp again with old | same
      · exact fresh old
      · exact other same

/-- The holding of the place gets more, or is new; the others are as they were. -/
theorem mem_addHolding (apart : (holdings.map (·.location)).Nodup) (hh : h ∈ addHolding here n holdings) :
    (h ∈ holdings ∧ h.location ≠ here) ∨ (∃ m, ⟨here, m⟩ ∈ holdings ∧ h = ⟨here, Bits.wrap 32 (m + n)⟩) ∨
      (here ∉ holdings.map (·.location) ∧ h = ⟨here, n⟩) := by
  induction holdings with
  | nil => simpa [addHolding] using hh
  | cons first rest ih =>
    obtain ⟨fresh, apart⟩ := List.nodup_cons.mp apart
    unfold addHolding at hh
    split at hh
    · rename_i same
      rcases List.mem_cons.mp hh with rfl | later
      · refine .inr (.inl ⟨first.quantity, ?_, by simp [same]⟩)
        rw [← same]
        exact List.mem_cons_self
      · exact .inl ⟨List.mem_cons_of_mem _ later, fun again =>
          fresh (List.mem_map.mpr ⟨h, later, again.trans same.symm⟩)⟩
    · rename_i other
      rcases List.mem_cons.mp hh with rfl | later
      · exact .inl ⟨List.mem_cons_self, other⟩
      · rcases ih apart later with ⟨old, elsewhere⟩ | ⟨m, old, rfl⟩ | ⟨new, rfl⟩
        · exact .inl ⟨List.mem_cons_of_mem _ old, elsewhere⟩
        · exact .inr (.inl ⟨m, List.mem_cons_of_mem _ old, rfl⟩)
        · refine .inr (.inr ⟨fun again => ?_, rfl⟩)
          rcases List.mem_cons.mp again with same | old
          · exact other same.symm
          · exact new old

/-- The total grows by what is added, as far as it is kept. -/
theorem total_addHolding (here : Location) (n : Nat) (holdings : List Holding) :
    Bits.wrap 32 (sumOf (·.quantity) (addHolding here n holdings)) =
      Bits.wrap 32 (sumOf (·.quantity) holdings + n) := by
  induction holdings with
  | nil => simp [addHolding, sumOf]
  | cons h rest ih =>
    unfold addHolding
    split
    · simp only [sumOf]
      rw [Bits.wrap_wrap_add, Nat.add_right_comm]
    · simp only [sumOf]
      rw [Nat.add_comm, ← Bits.wrap_wrap_add, ih, Bits.wrap_wrap_add]
      congr 1
      omega

/-! ## All items -/

/-- Holdings that say where some items are, and how much there is at each place. -/
structure Tallied (p : Profile) (items : List Item) (holdings : List Holding) : Prop where
  apart : (holdings.map (·.location)).Nodup
  listed : ∀ l, l ∈ holdings.map (·.location) ↔ ∃ i ∈ items, locationOf p i.owner = l
  quantity : ∀ h ∈ holdings, Bits.Kept 32 h.quantity
    (sumOf (·.quantity) (items.filter fun i => decide (locationOf p i.owner = h.location)))
  total : Bits.wrap 32 (sumOf (·.quantity) holdings) = Bits.wrap 32 (sumOf (·.quantity) items)

theorem tallied_nil (p : Profile) : Tallied p [] [] where
  apart := .nil
  listed l := by simp
  quantity h hh := nomatch hh
  total := rfl

theorem Tallied.add (tallied : Tallied p items holdings) (i : Item) :
    Tallied p (items ++ [i]) (addHolding (locationOf p i.owner) i.quantity holdings) where
  apart := apart_addHolding tallied.apart
  listed l := by
    simp only [mem_locations_addHolding, tallied.listed, List.mem_append, List.mem_singleton, or_and_right, exists_or,
      exists_eq_left]
    exact or_congr_right eq_comm
  quantity h hh := by
    rw [List.filter_append, sumOf_append]
    rcases mem_addHolding tallied.apart hh with ⟨old, elsewhere⟩ | ⟨m, old, rfl⟩ | ⟨new, rfl⟩
    · have not : ¬ locationOf p i.owner = h.location := fun same => elsewhere same.symm
      simpa [not, sumOf] using tallied.quantity h old
    · simpa [sumOf] using (tallied.quantity _ old).add i.quantity
    · -- nothing has been at the place before
      have none : items.filter (fun j => decide (locationOf p j.owner = locationOf p i.owner)) = [] := by
        rw [List.filter_eq_nil_iff]
        intro j hj same
        exact new ((tallied.listed _).mpr ⟨j, hj, of_decide_eq_true same⟩)
      simpa [none, sumOf] using Bits.Kept.refl 32 i.quantity
  total := by
    rw [total_addHolding, ← Bits.wrap_wrap_add, tallied.total, Bits.wrap_wrap_add, sumOf_append]
    rfl

theorem tallied_holdingsOf (p : Profile) (items : List Item) : Tallied p items (holdingsOf p items) := by
  induction items using List.reverseRecOn with
  | nil => exact tallied_nil p
  | append_singleton items i ih =>
    rw [holdingsOf, List.foldl_append]
    exact ih.add i

/-! ## The count -/

/-- A count of the items of a kind in a profile. -/
structure Counted (p : Profile) (hash : Hash) (count : ItemCount) : Prop where
  /-- No place is listed twice. -/
  apart : (count.holdings.map (·.location)).Nodup
  character_iff : ∀ id, (∃ g, .character id g ∈ count.holdings.map (·.location)) ↔
    ∃ i ∈ p.items, i.itemHash = hash ∧ i.owner = some id
  /-- A place is that of a character of the profile. -/
  character : ∀ id g, .character id g ∈ count.holdings.map (·.location) →
    ∃ ch, p.character? id = some ch ∧ ch.guardian = g
  vault_iff : .vault ∈ count.holdings.map (·.location) ↔ ∃ i ∈ p.items, i.itemHash = hash ∧ i.owner = none
  quantity : ∀ h ∈ count.holdings, Bits.Kept 32 h.quantity
    (sumOf (·.quantity) (p.items.filter fun i => i.itemHash == hash && i.owner == h.location.owner?))
  total : count.total = Bits.wrap 32 (sumOf (·.quantity) (p.items.filter (·.itemHash == hash)))
  /-- All sums are exact if everything fits. -/
  exact : Bits.holds 32 (sumOf (·.quantity) (p.items.filter (·.itemHash == hash))) →
    (∀ h ∈ count.holdings, h.quantity =
      sumOf (·.quantity) (p.items.filter fun i => i.itemHash == hash && i.owner == h.location.owner?)) ∧
    count.total = sumOf (·.quantity) (p.items.filter (·.itemHash == hash))

/-- What is at a place is what its owner has of the kind. -/
theorem Tallied.kept (tallied : Tallied p (p.items.filter (·.itemHash == hash)) holdings) (known : p.OwnersKnown) :
    ∀ h ∈ holdings, Bits.Kept 32 h.quantity
      (sumOf (·.quantity) (p.items.filter fun i => i.itemHash == hash && i.owner == h.location.owner?)) := by
  intro h hh
  obtain ⟨j, hj, place⟩ := (tallied.listed _).mp (List.mem_map_of_mem hh)
  have whose : j.owner = h.location.owner? := by
    rw [← place, owner?_locationOf (known j (List.mem_filter.mp hj).1)]
  have own : (p.items.filter (·.itemHash == hash)).filter (fun i => decide (locationOf p i.owner = h.location)) =
      p.items.filter fun i => i.itemHash == hash && i.owner == h.location.owner? := by
    rw [List.filter_filter]
    refine List.filter_congr fun i hi => ?_
    rw [Bool.and_comm]
    congr 1
    rw [Bool.eq_iff_iff, decide_eq_true_eq, beq_iff_eq]
    constructor
    · intro there
      rw [← there, owner?_locationOf (known i hi)]
    · intro own
      rw [own, ← whose, place]
  rw [← own]
  exact tallied.quantity h hh

theorem counted (known : p.OwnersKnown) (name : String)
    (tallied : Tallied p (p.items.filter (·.itemHash == hash)) holdings) :
    Counted p hash ⟨name, hash, holdings, Bits.wrap 32 (sumOf (·.quantity) holdings)⟩ where
  apart := tallied.apart
  character_iff id := by
    simp only [tallied.listed, List.mem_filter, beq_iff_eq]
    constructor
    · rintro ⟨g, i, ⟨hi, kind⟩, place⟩
      refine ⟨i, hi, kind, ?_⟩
      rw [← owner?_locationOf (known i hi), place, Location.owner?]
    · rintro ⟨i, hi, kind, own⟩
      obtain ⟨ch, -, place⟩ := exists_locationOf (known i hi id own)
      exact ⟨ch.guardian, i, ⟨hi, kind⟩, own ▸ place⟩
  character id g hl := by
    obtain ⟨i, hi, place⟩ := (tallied.listed _).mp hl
    have known := known i (List.mem_filter.mp hi).1
    cases own : i.owner with
    | none => simp [own, locationOf] at place
    | some id' =>
      obtain ⟨ch, found, there⟩ := exists_locationOf (known id' own)
      rw [own, there] at place
      cases place
      exact ⟨ch, found, rfl⟩
  vault_iff := by
    simp only [tallied.listed, List.mem_filter, beq_iff_eq]
    constructor
    · rintro ⟨i, ⟨hi, kind⟩, place⟩
      refine ⟨i, hi, kind, ?_⟩
      rw [← owner?_locationOf (known i hi), place, Location.owner?]
    · rintro ⟨i, hi, kind, own⟩
      exact ⟨i, ⟨hi, kind⟩, by rw [own]; rfl⟩
  quantity := tallied.kept known
  total := tallied.total
  exact fits := by
    have fits := of_decide_eq_true fits
    refine ⟨fun h hh => (tallied.kept known h hh).eq_of_lt (Nat.lt_of_le_of_lt ?_ fits), ?_⟩
    · rw [← List.filter_filter]
      exact sumOf_sublist_le _ (List.filter_sublist.filter _)
    · rw [← Bits.wrap_of_lt fits]
      exact tallied.total

/-- **Counts add up.** An item is named that is known and held by somebody, or that lies in the vault. Then there is a
count of it, for whatever snapshot and catalog, and it is exact if all there is of the item fits into 32 bits. -/
theorem countItem_counted {γ : Type} {game : Dialogue.Answering Game γ} {a : Account} {s : Snapshot}
    (reports : Reports game a s) (c : Catalog) (w : γ × Store.Shelf) (name : String)
    (known : c.itemHash? (c.itemName name) = some hash)
    (held : ∃ i ∈ (Profile.assemble s c false).items, i.itemHash = hash) :
    ∃ count, (Dialogue.run (partners game) (countItem c name).run w).value = .ok (.found count) ∧
      count.itemName = c.itemName name ∧ count.itemHash = hash ∧
      Counted (.assemble s c false) hash count := by
  obtain ⟨g, loaded⟩ := reports.ran_load c false w
  have kind : Filter.select [.itemHash hash] (Profile.assemble s c false).items =
      (Profile.assemble s c false).items.filter (·.itemHash == hash) := by
    rw [Filter.select_eq_filter]
    exact List.filter_congr fun i _ => by simp [Filter.acceptsAll, Filter.accepts]
  have nonempty : ((Profile.assemble s c false).items.filter (·.itemHash == hash)).isEmpty = false := by
    obtain ⟨i, hi, same⟩ := held
    rw [List.isEmpty_eq_false_iff_exists_mem]
    exact ⟨i, List.mem_filter.mpr ⟨hi, by simp [same]⟩⟩
  refine ⟨_, Operation.value_eq_iff.mpr ?_, rfl, rfl,
    counted (Profile.ownersKnown_assemble s c) (c.itemName name) (tallied_holdingsOf _ _)⟩
  simp only [countItem, known]
  refine ⟨(g, w.2), _ ++ [], loaded.bind ?_⟩
  simp only [kind, nonempty, Bool.false_eq_true, if_false]
  exact Operation.ran_pure

/-! ### A stack in three parts -/

/-- A warlock. -/
def quartermaster : Character := ⟨"quartermaster", "person", 2, .warlock, 50, 600, .epoch⟩

/-- An account with some material in the vault, and two lots of it with its warlock. -/
def hoard : Snapshot where
  membership := ⟨"person", 2, "person"⟩
  characters := [⟨quartermaster, [], [⟨7, none, 0, 120, 0⟩, ⟨7, none, 0, 30, 0⟩]⟩]
  profileInventory := [⟨7, none, 0, 100, 0⟩]
  currencies := []
  instances := .empty

/-- A catalog that knows the material. -/
def materials : Catalog := .ofSource { definitions := [⟨7, "Spinmetal", .common, .unknown, 0⟩] }

/-- A game that knows one account and does whatever it is asked to do. -/
def keeper (s : Snapshot) : Dialogue.Answering Game Unit
  | .currentAccount, g => (.ok ⟨"person", s.membership⟩, g)
  | .loadProfile _, g => (.ok s, g)
  | .loadProgressions _, g => (.error (.transport "down"), g)
  | .transferItem _, g => (.ok (), g)
  | .equipItem _, g => (.ok (), g)
  | .equipItems _, g => (.ok (), g)

theorem reports_keeper (s : Snapshot) : Reports (keeper s) ⟨"person", s.membership⟩ s where
  account _ := rfl
  profile _ := rfl

/-- There is a hundred in the vault, and as much as both lots hold with the warlock. -/
theorem countItem_counted_hoard :
    ∃ count, (Dialogue.run (partners (keeper hoard)) (countItem materials "spinmetal").run ((), .inl {})).value =
        .ok (.found count) ∧ count.total = 250 ∧
      (∀ h ∈ count.holdings, h.location.owner? = some "quartermaster" → h.quantity = 150) ∧
      ∀ h ∈ count.holdings, h.location = .vault → h.quantity = 100 := by
  have known : materials.itemHash? (materials.itemName "spinmetal") = some 7 := by decide +kernel
  obtain ⟨count, value, -, -, counted⟩ := countItem_counted (reports_keeper hoard) materials ((), .inl {})
    "spinmetal" known (by decide +kernel)
  obtain ⟨quantity, total⟩ := counted.exact (by decide +kernel)
  refine ⟨count, value, ?_, fun h hh own => ?_, fun h hh place => ?_⟩
  · rw [total]
    decide +kernel
  · rw [quantity h hh, own]
    decide +kernel
  · rw [quantity h hh, place]
    decide +kernel

end Service
end Armory
