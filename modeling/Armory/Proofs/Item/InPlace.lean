import Armory.Proofs.Item.Choice

/-! Selecting in place. One pass over an array moves every accepted item to the end of those accepted before it; the
items that it has not come to yet stay where they are. What is left at the end are the accepted items in the order in
which they stood (`Filter.toList_retain`). Main statement: that is what selecting by one condition after the other
leaves as well, and it depends on which conditions there are, and on nothing else about their list
(`Filter.strategies_agree`). -/
namespace Armory.Filter

variable {filters : List Filter} {items : Array Item} {kept : Nat × Array Item} {n : Nat}

/-- The state of the pass before it comes to an index. -/
structure Packed (filters : List Filter) (items : Array Item) (n : Nat) (kept : Nat × Array Item) : Prop where
  size : kept.2.size = items.size
  behind : kept.1 ≤ n
  front : kept.2.toList.take kept.1 = (items.toList.take n).filter (acceptsAll filters)
  rest : ∀ k, n ≤ k → kept.2[k]? = items[k]?

theorem packed_zero (filters : List Filter) (items : Array Item) : Packed filters items 0 (0, items) where
  size := rfl
  behind := Nat.le_refl 0
  front := rfl
  rest _ _ := rfl

/-- An accepted item changes places with one that was passed over, or with itself. -/
theorem swapIfInBounds_eq (h : Packed filters items n kept) (inside : n < items.size) :
    let moved := kept.2.swapIfInBounds kept.1 n
    moved.toList.take kept.1 = kept.2.toList.take kept.1 ∧ moved[kept.1]? = some items[n] ∧
      ∀ k, n + 1 ≤ k → moved[k]? = kept.2[k]? := by
  have insideₙ : n < kept.2.size := h.size ▸ inside
  have inside₀ : kept.1 < kept.2.size := Nat.lt_of_le_of_lt h.behind insideₙ
  have here : kept.2[n] = items[n] := by
    have := h.rest n (Nat.le_refl n)
    simpa [Array.getElem?_eq_getElem, inside, insideₙ] using this
  intro moved
  have swapped : moved = kept.2.swap kept.1 n inside₀ insideₙ := by
    simp only [moved, Array.swapIfInBounds_def, inside₀, insideₙ, dif_pos]
  rw [swapped]
  refine ⟨?_, ?_, fun k hk => ?_⟩
  · rw [Array.toList_swap, List.take_set_of_le h.behind, List.take_set_of_le (Nat.le_refl _)]
  · rw [Array.getElem?_swap]
    split
    · rename_i same
      simp only [← same, here]
    · rw [if_pos rfl, here]
  · have behind := h.behind
    rw [Array.getElem?_swap, if_neg (by omega), if_neg (by omega)]

theorem Packed.step (h : Packed filters items n kept) (inside : n < items.size) :
    Packed filters items (n + 1) (retainStep filters kept n) := by
  have here : kept.2[n]? = some items[n] := by
    rw [h.rest n (Nat.le_refl n), Array.getElem?_eq_getElem inside]
  have next : items.toList.take (n + 1) = items.toList.take n ++ [items[n]] := by
    rw [List.take_add_one, Array.getElem?_toList, Array.getElem?_eq_getElem inside, Option.toList_some]
  unfold retainStep
  simp only [here]
  split
  · rename_i accepted
    obtain ⟨before, last, after⟩ := swapIfInBounds_eq h inside
    refine ⟨Array.size_swapIfInBounds.trans h.size, Nat.succ_le_succ h.behind, ?_, fun k hk => ?_⟩
    · rw [List.take_add_one, before, Array.getElem?_toList, last, h.front, next, List.filter_append]
      simp [accepted]
    · rw [after k hk, h.rest k (Nat.le_of_succ_le hk)]
  · rename_i rejected
    refine ⟨h.size, Nat.le_succ_of_le h.behind, ?_, fun k hk => h.rest k (Nat.le_of_succ_le hk)⟩
    rw [h.front, next, List.filter_append]
    simp [rejected]

theorem packed_foldl (filters : List Filter) (items : Array Item) (hn : n ≤ items.size) :
    Packed filters items n ((List.range n).foldl (retainStep filters) (0, items)) := by
  induction n with
  | zero => exact packed_zero filters items
  | succ n ih =>
    rw [List.range_succ, List.foldl_append, List.foldl_cons, List.foldl_nil]
    exact (ih (Nat.le_of_succ_le hn)).step hn

/-- **Selecting in place** leaves the accepted items, in their order. -/
theorem toList_retain (filters : List Filter) (items : Array Item) :
    (retain filters items).toList = items.toList.filter (acceptsAll filters) := by
  have packed := packed_foldl filters items (Nat.le_refl items.size)
  have whole : items.toList.take items.size = items.toList :=
    List.take_of_length_le (Nat.le_of_eq Array.length_toList)
  simp only [retain, Array.take_eq_extract, Array.toList_extract, List.extract_eq_take_drop, List.drop_zero,
    Nat.sub_zero, packed.front, whole]

/-! ## Both ways to select -/

theorem acceptsAll_eq_decide (filters : List Filter) (i : Item) :
    acceptsAll filters i = decide (∀ f ∈ filters, accepts i f = true) := by
  rw [acceptsAll, Bool.eq_iff_iff, List.all_eq_true, decide_eq_true_iff]

/-- An item meets every condition of a list whatever their order is, and however often each of them is in it. -/
theorem acceptsAll_congr {others : List Filter} (same : ∀ f, f ∈ others ↔ f ∈ filters) :
    acceptsAll others = acceptsAll filters := by
  funext i
  rw [acceptsAll_eq_decide, acceptsAll_eq_decide, decide_eq_decide]
  exact forall_congr' fun f => by rw [same f]

/-- **Both ways to select leave the same list**: the items that meet every condition, each as often as before, in the
order in which they stood. A list of the same conditions, in another order or with repetitions, leaves it too. -/
theorem strategies_agree (filters : List Filter) (items : List Item) :
    (retain filters items.toArray).toList = select filters items ∧
    select filters items = items.filter (fun i => decide (∀ f ∈ filters, accepts i f = true)) ∧
    ∀ others : List Filter, (∀ f, f ∈ others ↔ f ∈ filters) →
      select others items = select filters items ∧ retain others items.toArray = retain filters items.toArray := by
  have agree (filters : List Filter) : (retain filters items.toArray).toList = select filters items := by
    rw [toList_retain, select_eq_filter]
  refine ⟨agree filters, ?_, fun others same => ?_⟩
  · rw [select_eq_filter]
    exact congrArg (items.filter ·) (funext (acceptsAll_eq_decide filters))
  · have selected : select others items = select filters items := by
      rw [select_eq_filter, select_eq_filter, acceptsAll_congr same]
    refine ⟨selected, Array.toList_inj.mp ?_⟩
    rw [agree, agree, selected]

end Armory.Filter
