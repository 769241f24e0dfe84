import Mathlib.Data.List.Forall2
import Armory.Dialogue

/-! Runs of a batch. A batch makes the calls of its members in order, each member going on from the state in
which the one before it ended. Main statement: what every member keeps, the batch keeps
(`run_each_invariant`), and if the value of each member can be foretold, so can the values of the batch
(`run_each_values`). -/
namespace Armory.Dialogue

variable {I : Interface} {β γ σ : Type}

/-- The run of a batch with one more dialogue in front. -/
theorem run_each_cons (answer : Answering I σ) (f : γ → Dialogue I β) (x : γ) (rest : List γ)
    (s : σ) :
    run answer (each f (x :: rest)) s =
      { value := (run answer (f x) s).value ::
          (run answer (each f rest) (run answer (f x) s).state).value
        state := (run answer (each f rest) (run answer (f x) s).state).state
        calls := (run answer (f x) s).calls ++
          (run answer (each f rest) (run answer (f x) s).state).calls } := by
  simp [each, run_andThen]

/-- **A batch keeps what each of its members keeps.** The invariant may speak of the members that are
done, and a member is only asked to keep it where it stands in the batch. -/
theorem run_each_invariant (answer : Answering I σ) (f : γ → Dialogue I β)
    (Inv : List γ → σ → Prop) (Good : γ → β → Prop) (xs : List γ) (s : σ) (start : Inv [] s)
    (step : ∀ done x rest t, xs = done ++ x :: rest → Inv done t →
      Good x (run answer (f x) t).value ∧ Inv (done ++ [x]) (run answer (f x) t).state) :
    List.Forall₂ Good xs (run answer (each f xs) s).value ∧
      Inv xs (run answer (each f xs) s).state := by
  -- the induction is on what is left, with the part that is done in the statement
  have general : ∀ rest done t, xs = done ++ rest → Inv done t →
      List.Forall₂ Good rest (run answer (each f rest) t).value ∧
        Inv xs (run answer (each f rest) t).state := by
    intro rest
    induction rest with
    | nil =>
      intro done t hxs inv
      rw [List.append_nil] at hxs
      subst hxs
      exact ⟨.nil, inv⟩
    | cons x rest ih =>
      intro done t hxs inv
      obtain ⟨good, inv'⟩ := step done x rest t hxs inv
      obtain ⟨goods, last⟩ := ih (done ++ [x]) _ (by simpa using hxs) inv'
      rw [run_each_cons]
      exact ⟨.cons good goods, last⟩
  exact general xs [] s rfl start

/-- A batch whose members give known values gives the list of these values. -/
theorem run_each_values (answer : Answering I σ) (f : γ → Dialogue I β)
    (Inv : List γ → σ → Prop) (g : γ → β) (xs : List γ) (s : σ) (start : Inv [] s)
    (step : ∀ done x rest t, xs = done ++ x :: rest → Inv done t →
      (run answer (f x) t).value = g x ∧ Inv (done ++ [x]) (run answer (f x) t).state) :
    (run answer (each f xs) s).value = xs.map g ∧ Inv xs (run answer (each f xs) s).state := by
  obtain ⟨values, last⟩ := run_each_invariant answer f Inv (fun x b => g x = b) xs s start
    fun done x rest t hxs inv => (step done x rest t hxs inv).imp_left Eq.symm
  have values' := List.forall₂_map_left_iff.mpr values
  rw [List.forall₂_eq_eq_eq] at values'
  exact ⟨values'.symm, last⟩

end Armory.Dialogue
