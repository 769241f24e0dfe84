/-! Sums over lists. -/
namespace Armory

variable {α : Type}

/-- The sum of what a function gives for the entries of a list. -/
def sumOf (f : α → Nat) : List α → Nat
  | [] => 0
  | x :: rest => f x + sumOf f rest

theorem sumOf_append (f : α → Nat) (l l' : List α) :
    sumOf f (l ++ l') = sumOf f l + sumOf f l' := by
  induction l with
  | nil => simp [sumOf]
  | cons x rest ih => simp [sumOf, ih, Nat.add_assoc]

theorem sumOf_perm (f : α → Nat) {l l' : List α} (h : l.Perm l') : sumOf f l = sumOf f l' := by
  induction h with
  | nil => rfl
  | cons x _ ih => simp only [sumOf, ih]
  | swap x y l =>
    simp only [sumOf]
    omega
  | trans _ _ ih ih' => rw [ih, ih']

theorem sumOf_sublist_le (f : α → Nat) {l l' : List α} (h : l.Sublist l') :
    sumOf f l ≤ sumOf f l' := by
  induction h with
  | slnil => exact Nat.le_refl _
  | cons x _ ih => exact Nat.le_trans ih (Nat.le_add_left _ _)
  | cons_cons x _ ih => exact Nat.add_le_add_left ih _

theorem sumOf_add (f g : α → Nat) (l : List α) :
    sumOf (fun x => f x + g x) l = sumOf f l + sumOf g l := by
  induction l with
  | nil => rfl
  | cons x rest ih =>
    simp only [sumOf, ih]
    omega

theorem sumOf_map {β : Type} (f : β → Nat) (g : α → β) (l : List α) :
    sumOf f (l.map g) = sumOf (fun x => f (g x)) l := by
  induction l with
  | nil => rfl
  | cons x rest ih => simp [sumOf, ih]

/-- The entries that meet a condition and those that do not make up the whole sum. -/
theorem sumOf_filter_add_filter_not (f : α → Nat) (p : α → Bool) (l : List α) :
    sumOf f (l.filter p) + sumOf f (l.filter fun x => !p x) = sumOf f l := by
  induction l with
  | nil => rfl
  | cons x rest ih =>
    cases h : p x <;> simp only [List.filter_cons, h, Bool.not_true, Bool.not_false, if_true,
      Bool.false_eq_true, if_false, sumOf] <;> omega

theorem sumOf_congr {f g : α → Nat} {l : List α} (h : ∀ x ∈ l, f x = g x) :
    sumOf f l = sumOf g l := by
  induction l with
  | nil => rfl
  | cons x rest ih =>
    rw [sumOf, sumOf, h x List.mem_cons_self, ih fun y hy => h y (List.mem_cons_of_mem x hy)]

theorem sumOf_le_sumOf {f g : α → Nat} {l : List α} (h : ∀ x ∈ l, f x ≤ g x) :
    sumOf f l ≤ sumOf g l := by
  induction l with
  | nil => exact Nat.le_refl _
  | cons x rest ih =>
    exact Nat.add_le_add (h x List.mem_cons_self) (ih fun y hy => h y (List.mem_cons_of_mem x hy))

theorem sumOf_eq_zero {f : α → Nat} {l : List α} (h : ∀ x ∈ l, f x = 0) : sumOf f l = 0 := by
  induction l with
  | nil => rfl
  | cons x rest ih =>
    rw [sumOf, h x List.mem_cons_self, ih fun y hy => h y (List.mem_cons_of_mem x hy)]

/-- A sum to which only one entry of a list without repetitions contributes. -/
theorem sumOf_single [DecidableEq α] {a : α} {l : List α} (f : α → Nat) (nodup : l.Nodup)
    (h : a ∈ l) : sumOf (fun x => if a = x then f x else 0) l = f a := by
  induction l with
  | nil => cases h
  | cons x rest ih =>
    obtain ⟨hx, hrest⟩ := List.nodup_cons.mp nodup
    by_cases hax : a = x
    · subst hax
      have zero : sumOf (fun y => if a = y then f y else 0) rest = 0 :=
        sumOf_eq_zero fun y hy => if_neg fun e => hx (by rwa [e])
      rw [sumOf, if_pos rfl, zero, Nat.add_zero]
    · have hmem : a ∈ rest := by
        rcases List.mem_cons.mp h with h | h
        · exact absurd h hax
        · exact h
      rw [sumOf, if_neg hax, ih hrest hmem, Nat.zero_add]

end Armory
