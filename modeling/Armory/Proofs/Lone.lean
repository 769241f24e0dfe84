import Mathlib.Data.List.Perm.Basic
import Mathlib.Data.List.Basic

/-! Lists in which one entry alone meets a condition. Such an entry can be looked up, followed through a
rearrangement of the list, and taken out of it. -/
namespace Armory

variable {α β : Type} {p q : α → Bool} {a x : α} {l l' : List α}

/-- One entry of a list meets a condition, and it is the given one. -/
def Lone (p : α → Bool) (a : α) (l : List α) : Prop := l.filter p = [a]

namespace Lone

theorem mem (h : Lone p a l) : a ∈ l := by
  have hmem : a ∈ l.filter p := by rw [h]; exact List.mem_singleton_self a
  exact (List.mem_filter.mp hmem).1

theorem holds (h : Lone p a l) : p a = true := by
  have hmem : a ∈ l.filter p := by rw [h]; exact List.mem_singleton_self a
  exact (List.mem_filter.mp hmem).2

theorem eq_of_mem (h : Lone p a l) (hx : x ∈ l) (hp : p x = true) : x = a := by
  have hmem : x ∈ l.filter p := List.mem_filter.mpr ⟨hx, hp⟩
  rw [h] at hmem
  exact List.mem_singleton.mp hmem

/-- A stronger condition leaves the entry alone, if the entry meets it. -/
theorem narrow (h : Lone p a l) (sub : ∀ x ∈ l, q x = true → p x = true) (ha : q a = true) :
    Lone q a l := by
  have hq : l.filter q = (l.filter p).filter q := by
    rw [List.filter_filter]
    apply List.filter_congr
    intro x hx
    cases hqx : q x with
    | false => simp
    | true => simp [sub x hx hqx]
  rw [Lone, hq, h]
  simp [ha]

theorem perm (h : Lone p a l) (hl : l.Perm l') : Lone p a l' := by
  have hp : (l.filter p).Perm (l'.filter p) := hl.filter p
  rw [h] at hp
  exact List.perm_singleton.mp hp.symm

theorem map (h : Lone p a l) (f : α → β) {q : β → Bool} (hf : ∀ x ∈ l, q (f x) = p x) :
    Lone q (f a) (l.map f) := by
  rw [Lone, List.filter_map]
  have hq : l.filter (q ∘ f) = l.filter p := List.filter_congr hf
  rw [hq, h]
  rfl

/-- The entry in front of all others. -/
theorem perm_cons (h : Lone p a l) : l.Perm (a :: l.filter fun x => !p x) := by
  have hl := List.filter_append_perm p l
  rw [h] at hl
  exact hl.symm

/-- A search finds the entry. -/
theorem findIdx? (h : Lone p a l) : ∃ n, l.findIdx? p = some n ∧ l[n]? = some a := by
  have hsome : (l.findIdx? p).isSome := by
    rw [List.findIdx?_isSome]
    exact List.any_eq_true.mpr ⟨a, h.mem, h.holds⟩
  obtain ⟨n, hn⟩ := Option.isSome_iff_exists.mp hsome
  obtain ⟨hlt, hp, -⟩ := List.findIdx?_eq_some_iff_getElem.mp hn
  refine ⟨n, hn, ?_⟩
  rw [List.getElem?_eq_getElem hlt, h.eq_of_mem (List.getElem_mem hlt) hp]

/-- What is gathered from the entries is what the entry brings, if the others bring nothing. -/
theorem flatMap (h : Lone p a l) {f : α → List β} (others : ∀ x ∈ l, p x = false → f x = []) :
    l.flatMap f = f a := by
  have kept : ∀ l : List α, (∀ x ∈ l, p x = false → f x = []) → l.flatMap f = (l.filter p).flatMap f := by
    intro l others
    induction l with
    | nil => rfl
    | cons x rest ih =>
      obtain ⟨here, later⟩ := List.forall_mem_cons.mp others
      cases hx : p x with
      | true => simp [hx, ih later]
      | false => simp [hx, ih later, here hx]
  rw [kept l others, h, List.flatMap_singleton]

/-- With distinct keys, an entry is the only one of its key. -/
theorem of_nodup [DecidableEq β] {key : α → Option β} {k : β} (nodup : (l.filterMap key).Nodup)
    (hmem : a ∈ l) (hkey : key a = some k) : Lone (fun x => key x == some k) a l := by
  induction l with
  | nil => cases hmem
  | cons y rest ih =>
    by_cases hy : key y = some k
    · -- this is the entry, and its key does not come again
      rw [List.filterMap_cons_some hy, List.nodup_cons] at nodup
      have hrest : ∀ x ∈ rest, ¬ key x = some k := fun x hx hk =>
        nodup.1 (List.mem_filterMap.mpr ⟨x, hx, hk⟩)
      have hay : a = y := by
        rcases List.mem_cons.mp hmem with h | h
        · exact h
        · exact absurd hkey (hrest a h)
      subst hay
      rw [Lone, List.filter_cons_of_pos (by simpa using hy),
        List.filter_eq_nil_iff.mpr (fun x hx => by simpa using hrest x hx)]
    · have hrest : a ∈ rest := by
        rcases List.mem_cons.mp hmem with h | h
        · exact absurd (h ▸ hkey) hy
        · exact h
      have nodup' : (rest.filterMap key).Nodup :=
        nodup.sublist ((List.sublist_cons_self y rest).filterMap key)
      rw [Lone, List.filter_cons_of_neg (by simpa using hy)]
      exact ih nodup' hrest

end Lone

/-- A list with one entry changed, that entry in front. -/
theorem modify_perm {n : Nat} (h : l[n]? = some a) (f : α → α) :
    (l.modify n f).Perm (f a :: l.eraseIdx n) := by
  obtain ⟨hlt, ha⟩ := List.getElem?_eq_some_iff.mp h
  rw [List.modify_eq_take_cons_drop hlt, List.eraseIdx_eq_take_drop_succ, ha]
  exact List.perm_middle

theorem perm_cons_eraseIdx {n : Nat} (h : l[n]? = some a) : l.Perm (a :: l.eraseIdx n) := by
  obtain ⟨hlt, ha⟩ := List.getElem?_eq_some_iff.mp h
  rw [← ha]
  exact (List.getElem_cons_eraseIdx_perm hlt).symm

end Armory
