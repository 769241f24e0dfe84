import Armory.Proofs.Loadout.Strongest
import Armory.Proofs.Profile.Order

/-! What the most powerful loadout owes to the order of the items. Among items of one power the order decides which of
them is picked, but neither how powerful the items of a loadout are nor where its exotics stand
(`Loadout.outline_strongestFor`). Main statement: a profile whose characters come in another order makes the same
choices (`Loadout.choices_reordered`). -/
namespace Armory

variable {items items' : List Item} {c : Catalog} {ch : Character} {exotic : Bool} {b : Bucket}

/-! ## Items in another order -/

theorem Item.topPower_congr (same : ∀ i, i ∈ items' ↔ i ∈ items) : topPower items' = topPower items :=
  Nat.le_antisymm (topPower_le fun i hi => power_le_topPower ((same i).mp hi))
    (topPower_le fun i hi => power_le_topPower ((same i).mpr hi))

/-- Of the same items, two strongest ones have the same power. -/
theorem Item.Tops.map_power {o o' : Option Item} (h : Tops items o) (h' : Tops items o') :
    o'.map (·.power) = o.map (·.power) := by
  cases o with
  | none =>
    have nothing : items = [] := h
    subst nothing
    cases o' with
    | none => rfl
    | some i' => exact absurd h'.1 List.not_mem_nil
  | some i =>
    cases o' with
    | none =>
      have nothing : items = [] := h'
      exact absurd (nothing ▸ h.1) List.not_mem_nil
    | some i' => exact congrArg some (Nat.le_antisymm (h.2 i' h'.1) (h'.2 i h.1))

namespace Character

theorem mem_candidates_congr (same : ∀ i, i ∈ items' ↔ i ∈ items) (i : Item) :
    i ∈ ch.candidates c items' exotic b ↔ i ∈ ch.candidates c items exotic b := by
  rw [mem_candidates, mem_candidates, same]

/-- The same items offer the same. -/
theorem offer_congr (same : ∀ i, i ∈ items' ↔ i ∈ items) : ch.offer c items' = ch.offer c items := by
  simp only [offer, Item.topPower_congr (mem_candidates_congr same)]

end Character

namespace Loadout

/-- How powerful an item is, and whether it is an exotic. -/
def grade (i : Item) : Nat × Bool := (i.power, i.isExotic)

/-- The grades of the items of a loadout. -/
def outline (l : Loadout) (b : Bucket) : Option (Nat × Bool) := (l.get? b).map grade

theorem map_grade_pick (c : Catalog) (items : List Item) (ch : Character) (exotic : Bool) (b : Bucket) :
    (pick c items ch exotic b).map grade = ((pick c items ch exotic b).map (·.power)).map (·, exotic) := by
  cases found : pick c items ch exotic b with
  | none => rfl
  | some i => rw [Option.map_some, grade, (pick_spec found).2.2, Option.map_some, Option.map_some]

/-- Which of the same items is picked for a bucket does not change its grade. -/
theorem grade_pick (same : ∀ i, i ∈ items' ↔ i ∈ items) (exotic : Bool) (b : Bucket) :
    (pick c items' ch exotic b).map grade = (pick c items ch exotic b).map grade := by
  have top := tops_pick c items ch exotic b
  have top' := (tops_pick c items' ch exotic b).congr (Character.mem_candidates_congr same)
  rw [map_grade_pick, map_grade_pick, top.map_power top']

/-- **The same items give the same outline**, whatever their order. -/
theorem outline_strongestFor (same : ∀ i, i ∈ items' ↔ i ∈ items) :
    (strongestFor c items' ch).outline = (strongestFor c items ch).outline := by
  funext b
  unfold outline
  rw [strongestFor_eq, strongestFor_eq, Character.offer_congr same]
  by_cases filled : filledBuckets.contains b = true
  · rw [get?_mixed filled, get?_mixed filled, grade_pick same]
  · simp only [mixed, if_neg filled]

/-! ## Characters in another order -/

/-- **The order of the characters has no bearing on the choice of gear.** Where snapshots differ in the order of
their characters only, and these are told apart by their ids and by the instants at which they were played, their
profiles have the same characters in the same order, the same loadouts and the same equipment; their items are the
same up to order; and for whatever character, the most powerful loadouts of both fill the same buckets with items of
the same power, and have exotics in the same buckets. -/
theorem choices_reordered (c : Catalog) (detailedOnly : Bool) {s s' : Snapshot} (h : s.Reordered s')
    (apart : (s.characters.map (·.character.id)).Nodup)
    (instants : (s.characters.map (·.character.lastPlayed)).Nodup) :
    let p := Profile.assemble s c detailedOnly
    let p' := Profile.assemble s' c detailedOnly
    (p'.characters = p.characters ∧ p'.current? = p.current? ∧ ∀ g, p'.ofClass? g = p.ofClass? g) ∧
      p'.loadouts = p.loadouts ∧ p'.equipments = p.equipments ∧ p'.items.Perm p.items ∧
      ∀ id, (strongest c p' id).map outline = (strongest c p id).map outline := by
  intro p p'
  have same : p' = { p with items := p'.items } := Profile.assemble_reordered h apart instants
  have characters : p'.characters = p.characters := by rw [same]
  have perm : p'.items.Perm p.items := h.items
  refine ⟨⟨characters, ?_, fun g => ?_⟩, ?_, ?_, perm, fun id => ?_⟩
  · rw [Profile.current?, Profile.current?, characters]
  · rw [Profile.ofClass?, Profile.ofClass?, characters]
  · rw [same]
  · rw [same]
  · rw [strongest_eq, strongest_eq, Profile.character?, Profile.character?, characters]
    cases p.characters.find? (·.id == id) with
    | none => rfl
    | some ch => exact congrArg Except.ok (outline_strongestFor fun i => perm.mem_iff)

/-- A titan who was last played at a time of the first day. -/
def camper (id : CharacterId) (time : Int) : Character := ⟨id, "person", 2, .titan, 50, 0, ⟨time, 0⟩⟩

/-- A kinetic weapon. -/
def campRifle (id : String) : RawItem := ⟨7, some id, 1498876634, 1, 0⟩

/-- Three characters, two of whom carry weapons of the same power. -/
def campers : List CharacterSnapshot :=
  [⟨camper "a" 1, [], []⟩, ⟨camper "b" 2, [], [campRifle "left"]⟩, ⟨camper "c" 3, [], [campRifle "right"]⟩]

/-- An account with these characters, in some order. -/
def camp (order : List CharacterSnapshot) : Snapshot where
  membership := ⟨"person", 2, "person"⟩
  characters := order
  profileInventory := []
  currencies := []
  instances := .ofList [("left", ⟨300, 10, true, false⟩), ("right", ⟨300, 10, true, false⟩)]

/-- The items that the profile of a camp lists. -/
def campItems (order : List CharacterSnapshot) : List Item :=
  (Profile.assemble (camp order) .standard true).items

/-- Items of one power keep their order, so that the first camper gets the first of them. -/
theorem pick_camp {order : List CharacterSnapshot}
    (gear : (Filter.select ((camper "a" 1).eligible (.ofExotic false)) (campItems order)).filter
      (fun i => Catalog.standard.bucketOf? i.bucketHash == some .kinetic) = campItems order)
    (alike : (campItems order).Pairwise fun i j => decide (j.power ≤ i.power) = true) :
    pick .standard (campItems order) (camper "a" 1) false .kinetic = Item.best? "a" (campItems order) := by
  have sorted : Item.strongestFirst (campItems order) = campItems order := List.mergeSort_of_pairwise alike
  rw [pick, bestFor, Catalog.gearFor, gear, sorted]
  rfl

/-- Here the order decides which weapon the first camper gets, but not its grade. -/
theorem choices_reordered_camp :
    let p := Profile.assemble (camp campers) .standard true
    let p' := Profile.assemble (camp campers.reverse) .standard true
    p'.current? = p.current? ∧ (strongest .standard p' "a").map outline = (strongest .standard p "a").map outline ∧
      (pick .standard p.items (camper "a" 1) false .kinetic).bind (·.instanceId) = some "left" ∧
      (pick .standard p'.items (camper "a" 1) false .kinetic).bind (·.instanceId) = some "right" := by
  intro p p'
  have reordered : (camp campers).Reordered (camp campers.reverse) :=
    ⟨rfl, List.reverse_perm _, rfl, rfl, rfl⟩
  obtain ⟨⟨-, current, -⟩, -, -, -, outlines⟩ :=
    choices_reordered .standard true reordered (by decide) (by decide)
  refine ⟨current, outlines "a", ?_, ?_⟩
  · show (pick .standard (campItems campers) (camper "a" 1) false .kinetic).bind _ = _
    rw [pick_camp (by decide +kernel) (by decide +kernel)]
    decide +kernel
  · show (pick .standard (campItems campers.reverse) (camper "a" 1) false .kinetic).bind _ = _
    rw [pick_camp (by decide +kernel) (by decide +kernel)]
    decide +kernel

end Loadout
end Armory
