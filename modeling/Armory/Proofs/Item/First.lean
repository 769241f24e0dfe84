import Armory.Proofs.Item.Choice

/-! The first item of a list that meets a condition. Main statement: what comes first when items are sorted from the
least to the most powerful is the first of the least powerful ones (`Item.head?_weakestFirst`). -/
namespace Armory.Item

variable {P Q : Item → Prop} {items : List Item} {i j : Item}

/-- An item of a list that meets a condition, as none before it does. -/
def FirstWith (P : Item → Prop) (items : List Item) (i : Item) : Prop :=
  P i ∧ ∃ before after, items = before ++ i :: after ∧ ∀ j ∈ before, ¬ P j

theorem find?_eq_some_iff_firstWith {p : Item → Bool} :
    items.find? p = some i ↔ FirstWith (p · = true) items i := by
  simp only [List.find?_eq_some_iff_append, FirstWith, Bool.not_eq_true', Bool.not_eq_true]

theorem FirstWith.mem (h : FirstWith P items i) : i ∈ items := by
  obtain ⟨-, before, after, rfl, -⟩ := h
  simp

/-- Only what is said of the items of the list matters. -/
theorem firstWith_congr (h : ∀ j ∈ items, P j ↔ Q j) : FirstWith P items i ↔ FirstWith Q items i := by
  constructor
  · rintro ⟨here, before, after, rfl, none⟩
    refine ⟨(h i (by simp)).mp here, before, after, rfl, fun j hj => ?_⟩
    exact mt (h j (List.mem_append_left _ hj)).mpr (none j hj)
  · rintro ⟨here, before, after, rfl, none⟩
    refine ⟨(h i (by simp)).mpr here, before, after, rfl, fun j hj => ?_⟩
    exact mt (h j (List.mem_append_left _ hj)).mp (none j hj)

theorem FirstWith.unique (h : FirstWith P items i) (h' : FirstWith P items j) : i = j := by
  classical
  have found : ∀ {k}, FirstWith P items k → items.find? (fun k => decide (P k)) = some k := fun first => by
    simpa only [find?_eq_some_iff_firstWith, decide_eq_true_eq] using first
  exact Option.some.inj ((found h).symm.trans (found h'))

/-! ## The weakest item -/

/-- The first of the items sorted by power, if there is one more in front of them: a tie goes to that one. -/
theorem head?_weakestFirst_cons (i : Item) (items : List Item) :
    (weakestFirst (i :: items)).head? =
      ((weakestFirst items).head?.filter (·.power < i.power)).or (some i) := by
  have trans : ∀ a b c : Item, decide (a.power ≤ b.power) = true → decide (b.power ≤ c.power) = true →
      decide (a.power ≤ c.power) = true := by
    intro a b c hab hbc
    simp only [decide_eq_true_eq] at *
    omega
  have total : ∀ a b : Item, (decide (a.power ≤ b.power) || decide (b.power ≤ a.power)) = true := by
    intro a b
    simp only [Bool.or_eq_true, decide_eq_true_eq]
    omega
  have sorted := List.pairwise_mergeSort trans total (i :: items)
  obtain ⟨lower, upper, whole, rest, below⟩ := List.mergeSort_cons trans total i items
  rw [weakestFirst, weakestFirst, whole, rest]
  rw [whole] at sorted
  cases lower with
  | cons j lower =>
    have weaker := below j List.mem_cons_self
    simp only [Bool.not_eq_true', decide_eq_false_iff_not, Nat.not_le] at weaker
    simp [Option.filter, weaker]
  | nil =>
    -- what follows in the order is not weaker
    cases upper with
    | nil => rfl
    | cons j upper =>
      have first := (List.pairwise_cons.mp sorted).1 j List.mem_cons_self
      simp only [decide_eq_true_eq] at first
      have level : ¬ j.power < i.power := by omega
      simp [Option.filter, level]

/-- **What comes first in the order of power** is the first of the items that no item is weaker than. -/
theorem head?_weakestFirst (items : List Item) :
    (weakestFirst items).head? = items.find? fun i => decide (∀ j ∈ items, i.power ≤ j.power) := by
  induction items with
  | nil => simp [weakestFirst]
  | cons i rest ih =>
    rw [head?_weakestFirst_cons, ih]
    cases found : rest.find? fun j => decide (∀ k ∈ rest, j.power ≤ k.power) with
    | none =>
      rw [found, List.head?_eq_none_iff] at ih
      have empty : rest = [] := by
        refine List.eq_nil_iff_forall_not_mem.mpr fun j hj => ?_
        have := mem_weakestFirst.mpr hj
        rw [ih] at this
        cases this
      simp [empty]
    | some k =>
      rw [find?_eq_some_iff_firstWith] at found
      have least : ∀ j ∈ rest, k.power ≤ j.power := of_decide_eq_true found.1
      by_cases weaker : k.power < i.power
      · -- the new item is not among the least powerful, and the others are the ones they were
        have same : ∀ j ∈ rest, decide (∀ m ∈ rest, j.power ≤ m.power) = true ↔
            decide (∀ m ∈ i :: rest, j.power ≤ m.power) = true := by
          intro j hj
          simp only [decide_eq_true_eq, List.forall_mem_cons]
          constructor
          · intro h
            have := h k found.mem
            exact ⟨by omega, h⟩
          · exact And.right
        have stronger : ¬ ∀ m ∈ i :: rest, i.power ≤ m.power := by
          intro h
          have := h k (List.mem_cons_of_mem i found.mem)
          omega
        rw [List.find?_cons_of_neg (by simpa using stronger),
          find?_eq_some_iff_firstWith.mpr ((firstWith_congr same).mp found)]
        simp [Option.filter, weaker]
      · have least' : ∀ m ∈ i :: rest, i.power ≤ m.power := by
          intro m hm
          rcases List.mem_cons.mp hm with rfl | hm
          · exact Nat.le_refl _
          · have := least m hm
            omega
        rw [List.find?_cons_of_pos (by simpa using least')]
        simp [Option.filter, weaker]

end Armory.Item
