import Mathlib.Data.List.Basic
import Armory.Character
import Armory.Item.Filter
import Armory.Item.Grouping

/-! What a selection of items contains, and which item of a bucket is chosen. Main statement: the choice is one
of the items of the bucket with the greatest power, whatever the preference among equals says, and there is
none only if the bucket has no items (`Item.tops_best?`). -/
namespace Armory

/-! ## Selections -/

namespace Filter

/-- Selecting by one condition after the other keeps what meets all of them. -/
theorem select_eq_filter (filters : List Filter) (items : List Item) :
    select filters items = items.filter (acceptsAll filters) := by
  unfold select
  induction filters generalizing items with
  | nil => exact (List.filter_eq_self.mpr fun _ _ => rfl).symm
  | cons f rest ih =>
    rw [List.foldl_cons, ih, List.filter_filter]
    apply List.filter_congr
    intro i _
    simp [acceptsAll, Bool.and_comm]

theorem mem_select {filters : List Filter} {items : List Item} {i : Item} :
    i ∈ select filters items ↔ i ∈ items ∧ ∀ f ∈ filters, accepts i f = true := by
  rw [select_eq_filter, List.mem_filter]
  simp [acceptsAll]

end Filter

/-! ## Orders of power -/

namespace Item

@[simp] theorem mem_strongestFirst {items : List Item} {i : Item} :
    i ∈ strongestFirst items ↔ i ∈ items := List.mem_mergeSort

@[simp] theorem mem_weakestFirst {items : List Item} {i : Item} :
    i ∈ weakestFirst items ↔ i ∈ items := List.mem_mergeSort

theorem descending_trans (i j k : Item) (h : decide (j.power ≤ i.power) = true)
    (h' : decide (k.power ≤ j.power) = true) : decide (k.power ≤ i.power) = true := by
  simp only [decide_eq_true_eq] at *
  omega

theorem descending_total (i j : Item) :
    (decide (j.power ≤ i.power) || decide (i.power ≤ j.power)) = true := by
  simp only [Bool.or_eq_true, decide_eq_true_eq]
  omega

theorem strongestFirst_descends (items : List Item) :
    (strongestFirst items).Pairwise fun i j => j.power ≤ i.power :=
  (List.pairwise_mergeSort descending_trans descending_total items).imp of_decide_eq_true

/-! ## The choice among the strongest -/

/-- Whether a choice from a list is one of its most powerful items, or nothing from an empty list. -/
def Tops (items : List Item) : Option Item → Prop
  | none => items = []
  | some i => i ∈ items ∧ ∀ j ∈ items, j.power ≤ i.power

theorem preferred_eq_or (destination : CharacterId) (candidate next : Item) :
    preferred destination candidate next = candidate ∨
      preferred destination candidate next = next := by
  unfold preferred
  simp only
  split
  · exact .inr rfl
  · split
    · split
      · exact .inr rfl
      · exact .inl rfl
    · split
      · exact .inr rfl
      · exact .inl rfl

theorem bestAfter_mem (destination : CharacterId) (candidate : Item) (rest : List Item) :
    bestAfter destination candidate rest ∈ candidate :: rest := by
  induction rest generalizing candidate with
  | nil => exact List.mem_singleton_self candidate
  | cons next rest ih =>
    unfold bestAfter
    split
    · exact List.mem_cons_self
    · rcases preferred_eq_or destination candidate next with hp | hp
      · rw [hp]
        rcases List.mem_cons.mp (ih candidate) with h | h
        · exact List.mem_cons.mpr (.inl h)
        · exact List.mem_cons_of_mem _ (List.mem_cons_of_mem _ h)
      · rw [hp]
        exact List.mem_cons_of_mem _ (ih next)

/-- The search never leaves the power it starts with: it stops at the first weaker item. -/
theorem power_bestAfter {candidate : Item} {rest : List Item}
    (sorted : (candidate :: rest).Pairwise fun i j => j.power ≤ i.power)
    (destination : CharacterId) :
    (bestAfter destination candidate rest).power = candidate.power := by
  induction rest generalizing candidate with
  | nil => rfl
  | cons next rest ih =>
    obtain ⟨hcandidate, hrest⟩ := List.pairwise_cons.mp sorted
    have hle := hcandidate next List.mem_cons_self
    unfold bestAfter
    split
    · rfl
    · rename_i go
      have hnot : ¬ next.power < candidate.power := by
        intro hlt
        simp [hlt] at go
      -- either of the two can be kept, and the search goes on among items of the same power
      have same : next.power = candidate.power := by omega
      rcases preferred_eq_or destination candidate next with hp | hp
      · rw [hp]
        have after : ∀ j ∈ rest, j.power ≤ candidate.power := fun j hj =>
          hcandidate j (List.mem_cons_of_mem next hj)
        exact ih (List.pairwise_cons.mpr ⟨after, (List.pairwise_cons.mp hrest).2⟩)
      · rw [hp, ih hrest, same]

/-- **The choice is a strongest item**, and it fails only on nothing. -/
theorem tops_best? {items : List Item}
    (sorted : items.Pairwise fun i j => j.power ≤ i.power) (destination : CharacterId) :
    Tops items (best? destination items) := by
  cases items with
  | nil => rfl
  | cons first rest =>
    refine ⟨bestAfter_mem destination first rest, ?_⟩
    rw [power_bestAfter sorted]
    intro j hj
    rcases List.mem_cons.mp hj with rfl | hj
    · exact Nat.le_refl _
    · exact (List.pairwise_cons.mp sorted).1 j hj

/-- Which items a choice is made from does not depend on their order. -/
theorem Tops.congr {items items' : List Item} {choice : Option Item} (h : Tops items choice)
    (same : ∀ i, i ∈ items ↔ i ∈ items') : Tops items' choice := by
  cases choice with
  | none =>
    have hnil : items = [] := h
    refine List.eq_nil_iff_forall_not_mem.mpr fun i hi => ?_
    have hmem := (same i).mpr hi
    rw [hnil] at hmem
    cases hmem
  | some i =>
    obtain ⟨hi, hmax⟩ := h
    exact ⟨(same i).mp hi, fun j hj => hmax j ((same j).mpr hj)⟩

end Item

/-! ## The gear of a bucket -/

theorem Catalog.mem_gearFor {c : Catalog} {b : Bucket} {items : List Item} {i : Item} :
    i ∈ c.gearFor b items ↔ i ∈ items ∧ c.bucketOf? i.bucketHash = some b := by
  simp [gearFor]

theorem Catalog.gearFor_descends (c : Catalog) (b : Bucket) (items : List Item) :
    (c.gearFor b items).Pairwise fun i j => j.power ≤ i.power :=
  Item.strongestFirst_descends _

/-! ## Samples -/

/-- A weapon of a character that anyone can use. -/
def Item.weapon (bucketHash : Hash) (id : String) (tier : Tier) (power : Nat)
    (holder : CharacterId) (worn : Bool) : Item where
  itemHash := 1
  instanceId := some id
  bucketHash
  quantity := 1
  power
  tier
  guardian := .unknown
  requiredLevel := 0
  canEquip := true
  isEquipped := worn
  isEngram := false
  transferStatus := if worn then .itemIsEquipped else .canTransfer
  owner := some holder

/-- A character of full level. -/
def Character.veteran (id : CharacterId) (guardian : Guardian) : Character where
  id
  membershipId := "1"
  membershipType := 2
  guardian
  level := 50
  light := 600
  lastPlayed := ⟨0, 0⟩

end Armory
