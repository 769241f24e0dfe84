import Mathlib.Data.List.Nodup
import Mathlib.Data.List.Perm.Basic
import Armory.Table

/-! Tables whose keys ascend. Such a table is known by its reading (`Table.Ordered.ext`), and a table made of a list
is one: where no key of the list comes twice, it gives each key its entry, whatever the order of the list
(`Table.ofList_perm`). Two tables read side by side give the same pairs, whichever of them is gone through
(`Table.perm_joined`). -/
namespace Armory.Table

variable {α β γ : Type}

/-! ## The order of the keys -/
/-- A table whose keys ascend, so that none comes twice. -/
def Ordered (t : Table String α) : Prop := t.entries.Pairwise fun e f => e.1 < f.1

theorem ordered_empty : (empty : Table String α).Ordered := .nil

theorem mem_place {k : String} {a : α} {es : List (String × α)} {e : String × α}
    (h : e ∈ place k a es) : e = (k, a) ∨ e ∈ es := by
  induction es with
  | nil => simpa [place] using h
  | cons f es ih =>
    unfold place at h
    split at h
    · rcases List.mem_cons.mp h with rfl | later
      · exact .inl rfl
      · exact .inr (List.mem_cons_of_mem f later)
    split at h
    · rcases List.mem_cons.mp h with rfl | later
      · exact .inl rfl
      · exact .inr later
    · rcases List.mem_cons.mp h with rfl | later
      · exact .inr List.mem_cons_self
      · exact (ih later).imp_right (List.mem_cons_of_mem f)

theorem pairwise_place (k : String) (a : α) {es : List (String × α)}
    (h : es.Pairwise fun e f => e.1 < f.1) : (place k a es).Pairwise fun e f => e.1 < f.1 := by
  induction es with
  | nil => exact List.pairwise_singleton _ _
  | cons f es ih =>
    obtain ⟨first, rest⟩ := List.pairwise_cons.mp h
    unfold place
    split
    · rename_i same
      exact List.pairwise_cons.mpr ⟨fun e he => same ▸ first e he, rest⟩
    split
    · rename_i before
      refine List.pairwise_cons.mpr ⟨fun e he => ?_, h⟩
      rcases List.mem_cons.mp he with rfl | later
      · exact before
      · exact String.lt_trans before (first e later)
    · rename_i other notBefore
      refine List.pairwise_cons.mpr ⟨fun e he => ?_, ih rest⟩
      rcases mem_place he with rfl | later
      · exact Std.lt_of_le_of_ne (String.not_lt.mp notBefore) other
      · exact first e later

theorem Ordered.insert {t : Table String α} (h : t.Ordered) (k : String) (a : α) :
    (t.insert k a).Ordered :=
  pairwise_place k a h

theorem Ordered.keys {t : Table String α} (h : t.Ordered) : t.keys.Pairwise (· < ·) :=
  List.pairwise_map.mpr h

theorem nodup_of_ascending {ns : List String} (ascending : ns.Pairwise (· < ·)) : ns.Nodup := by
  refine ascending.imp fun {a b} less same => ?_
  subst same
  exact String.lt_irrefl a less

theorem mem_keys {t : Table String α} {k : String} : k ∈ t.keys ↔ (t.get? k).isSome := by
  obtain ⟨es⟩ := t
  simp only [Table.keys, get?]
  induction es with
  | nil => simp [find]
  | cons e es ih =>
    by_cases h : e.1 = k
    · simp [find, h]
    · simp [find, h, Ne.symm h, ih]

theorem Ordered.nodup {t : Table String α} (h : t.Ordered) : t.keys.Nodup := nodup_of_ascending h.keys

theorem ordered_ofList (es : List (String × α)) : (ofList es).Ordered := by
  unfold ofList
  -- the induction is on the entries, over a table that has its keys in order
  suffices keeps : ∀ t : Table String α, t.Ordered → (es.foldl (fun t e => t.insert e.1 e.2) t).Ordered from
    keeps .empty ordered_empty
  induction es with
  | nil => exact fun t h => h
  | cons e es ih => exact fun t h => ih _ (h.insert e.1 e.2)

/-! ## Entries and the reading -/

theorem find_eq_some_iff {es : List (String × α)} (once : (es.map (·.1)).Nodup) {k : String} {a : α} :
    find k es = some a ↔ (k, a) ∈ es := by
  induction es with
  | nil => simp [find]
  | cons e es ih =>
    obtain ⟨new, once⟩ := List.nodup_cons.mp once
    by_cases h : e.1 = k
    · subst h
      have absent : (e.1, a) ∉ es := fun mem => new (List.mem_map.mpr ⟨(e.1, a), mem, rfl⟩)
      simp [find, absent, Prod.ext_iff, eq_comm]
    · have other : (k, a) ≠ e := fun same => h (congrArg Prod.fst same).symm
      simp [find, h, ih once, other]

/-- The reading of a table whose keys ascend is its entries. -/
theorem Ordered.get?_eq_some_iff {t : Table String α} (h : t.Ordered) {k : String} {a : α} :
    t.get? k = some a ↔ (k, a) ∈ t.entries :=
  find_eq_some_iff h.nodup

/-- **A table whose keys ascend is known by its reading.** -/
theorem Ordered.ext {t t' : Table String α} (h : t.Ordered) (h' : t'.Ordered)
    (same : ∀ k, t.get? k = t'.get? k) : t = t' := by
  have members : ∀ e : String × α, e ∈ t.entries ↔ e ∈ t'.entries := by
    intro e
    rw [← h.get?_eq_some_iff, ← h'.get?_eq_some_iff, same]
  have perm : t.entries.Perm t'.entries :=
    (List.perm_ext_iff_of_nodup h.nodup.of_map h'.nodup.of_map).mpr members
  have equal : t.entries = t'.entries := by
    refine perm.eq_of_pairwise (fun e f _ _ less more => ?_) h h'
    exact absurd less (String.lt_asymm more)
  cases t
  cases t'
  exact congrArg Table.mk equal

theorem find_perm {es es' : List (String × α)} (perm : es.Perm es') (once : (es.map (·.1)).Nodup)
    (k : String) : find k es = find k es' := by
  have once' : (es'.map (·.1)).Nodup := (perm.map (·.1)).nodup once
  ext a
  rw [find_eq_some_iff once, find_eq_some_iff once', perm.mem_iff]

theorem find_eq_find? (k : String) (es : List (String × α)) :
    find k es = (es.find? fun e => decide (e.1 = k)).map (·.2) := by
  induction es with
  | nil => rfl
  | cons e es ih => by_cases h : e.1 = k <;> simp [find, h, ih]

/-- Where no key comes twice, a table made of a list gives each key its entry. -/
theorem get?_ofList_of_nodup {es : List (String × α)} (once : (es.map (·.1)).Nodup) (k : String) :
    (ofList es).get? k = find k es := by
  rw [get?_ofList, ← find_eq_find?, find_perm es.reverse_perm.symm once]

theorem get?_ofList_of_mem {es : List (String × α)} (once : (es.map (·.1)).Nodup) {k : String} {a : α}
    (h : (k, a) ∈ es) : (ofList es).get? k = some a := by
  rw [get?_ofList_of_nodup once, find_eq_some_iff once]
  exact h

/-- Where no key comes twice, the order of a list makes no difference to the table made of it. -/
theorem ofList_perm {es es' : List (String × α)} (perm : es.Perm es') (once : (es.map (·.1)).Nodup) :
    ofList es = ofList es' := by
  refine (ordered_ofList es).ext (ordered_ofList es') fun k => ?_
  have once' : (es'.map (·.1)).Nodup := (perm.map (·.1)).nodup once
  rw [get?_ofList_of_nodup once, get?_ofList_of_nodup once', find_perm perm once]

/-! ## Two tables side by side -/

theorem perm_flatMap_comm (xs : List α) (ys : List β) (f : α → β → List γ) :
    (xs.flatMap fun x => ys.flatMap fun y => f x y).Perm (ys.flatMap fun y => xs.flatMap fun x => f x y) := by
  induction xs with
  | nil => simp
  | cons x xs ih =>
    simp only [List.flatMap_cons]
    exact (ih.append_left _).trans (List.flatMap_append_perm ys _ _)

/-- What is made of the value under a key, gone through entry by entry. -/
theorem elim_find {es : List (String × α)} (once : (es.map (·.1)).Nodup) (k : String) (f : α → List γ) :
    (find k es).elim [] f = es.flatMap fun e => if e.1 = k then f e.2 else [] := by
  induction es with
  | nil => rfl
  | cons e es ih =>
    obtain ⟨new, once⟩ := List.nodup_cons.mp once
    by_cases h : e.1 = k
    · subst h
      have absent : find e.1 es = none := by
        rw [Option.eq_none_iff_forall_ne_some]
        intro a found
        exact new (List.mem_map.mpr ⟨(e.1, a), (find_eq_some_iff once).mp found, rfl⟩)
      simp [find, ← ih once, absent]
    · simp [find, h, ih once]

/-- **Two tables give the same pairs** of values under one key, whichever of them is gone through. -/
theorem perm_joined {t : Table String α} {t' : Table String β} (h : t.Ordered) (h' : t'.Ordered)
    (f : String → α → β → List γ) :
    (t.entries.flatMap fun e => (t'.get? e.1).elim [] (f e.1 e.2)).Perm
      (t'.entries.flatMap fun e => (t.get? e.1).elim [] fun a => f e.1 a e.2) := by
  simp only [get?, elim_find h.nodup, elim_find h'.nodup]
  refine (perm_flatMap_comm t.entries t'.entries _).trans (List.Perm.of_eq ?_)
  refine congrArg (List.flatMap · t'.entries) (funext fun e => ?_)
  refine congrArg (List.flatMap · t.entries) (funext fun d => ?_)
  by_cases same : e.1 = d.1
  · rw [if_pos same, if_pos same.symm, same]
  · rw [if_neg same, if_neg (Ne.symm same)]

end Armory.Table
