import Armory.Proofs.Dialogue.Interleaving

/-! The order of calls. Dialogues under way at the same time make their calls one after the other, each answered in
the state that the one before has left (`Interleaving.chain`). Which of them makes the next call can be laid down
beforehand, and every schedule that brings all of them to their ends is a way for them to go
(`interleaving_of_scheduled`). -/
namespace Armory.Dialogue

variable {I : Interface} {α β σ : Type} {answer : Answering I σ} {pool : List (Dialogue I β)}
  {s t : σ} {talk : List (Nat × Exchange I)} {values : List β}

/-- Exchanges one after the other, each answered in the state that the one before has left. -/
inductive Chain (answer : Answering I σ) : σ → List (Exchange I) → σ → Prop
  | nil (s : σ) : Chain answer s [] s
  | cons (c : I.Call) {s t : σ} {talk : List (Exchange I)} (rest : Chain answer (answer c s).2 talk t) :
      Chain answer s (⟨c, (answer c s).1⟩ :: talk) t

theorem Interleaving.chain (h : Interleaving answer pool s talk values t) :
    Chain answer s (talk.map (·.2)) t := by
  induction h with
  | done values s => exact .nil s
  | step front back c next rest ih => exact .cons c ih

/-- An exchange belongs to one of the dialogues, and the exchanges of the others come before it or after it. -/
theorem exists_partOf {before after : List (Exchange I)} {x : Exchange I}
    (h : talk.map (·.2) = before ++ x :: after) :
    ∃ k, x ∈ partOf k talk ∧ ∀ j ≠ k, ∀ e ∈ partOf j talk, e ∈ before ++ after := by
  obtain ⟨first, rest, rfl, rfl, own⟩ := List.map_eq_append_iff.mp h
  obtain ⟨⟨k, x'⟩, last, rfl, rfl, rfl⟩ := List.map_eq_cons_iff.mp own
  refine ⟨k, mem_partOf.mpr (by simp), fun j other e he => ?_⟩
  have place := mem_partOf.mp he
  rw [List.mem_append, List.mem_cons] at place
  rw [List.mem_append]
  rcases place with first | own | last
  · exact .inl (List.mem_map_of_mem first)
  · exact absurd (congrArg Prod.fst own) other
  · exact .inr (List.mem_map_of_mem last)

/-- What a dialogue is done with, if it is done. -/
def value? : Dialogue I α → Option α
  | done a => some a
  | ask _ _ => none

/-- Dialogues that make their calls in the order in which their places are listed, if that brings all of them to
their ends: the exchanges with these places, the values, and the last state. -/
def scheduled (answer : Answering I σ) :
    List Nat → List (Dialogue I β) → σ → Option (List (Nat × Exchange I) × List β × σ)
  | [], pool, s => (pool.mapM value?).map fun values => ([], values, s)
  | k :: order, pool, s =>
    match pool[k]? with
    | some (ask c next) =>
      (scheduled answer order (pool.set k (next (answer c s).1)) (answer c s).2).map fun r =>
        ((k, ⟨c, (answer c s).1⟩) :: r.1, r.2)
    | _ => none

theorem eq_done_of_value? {d : Dialogue I α} {a : α} (h : d.value? = some a) : d = done a := by
  cases d with
  | done b => exact congrArg done (Option.some.inj h)
  | ask c next => cases h

/-- Dialogues of which each is done are done. -/
theorem eq_map_done_of_mapM_value? (h : pool.mapM value? = some values) : pool = values.map done := by
  induction pool generalizing values with
  | nil =>
    obtain rfl : [] = values := Option.some.inj h
    rfl
  | cons d rest ih =>
    rw [List.mapM_cons] at h
    obtain ⟨a, first, h⟩ := Option.bind_eq_some_iff.mp h
    obtain ⟨as, later, h⟩ := Option.bind_eq_some_iff.mp h
    obtain rfl : a :: as = values := Option.some.inj h
    rw [List.map_cons, eq_done_of_value? first, ih later]

/-- **A schedule is one way to go**, if it brings all dialogues to their ends. -/
theorem interleaving_of_scheduled {order : List Nat}
    (h : scheduled answer order pool s = some (talk, values, t)) :
    Interleaving answer pool s talk values t := by
  induction order generalizing pool s talk with
  | nil =>
    obtain ⟨values', done, same⟩ := Option.map_eq_some_iff.mp h
    cases same
    rw [eq_map_done_of_mapM_value? done]
    exact .done _ _
  | cons k order ih =>
    unfold scheduled at h
    split at h
    · rename_i c next here
      obtain ⟨⟨rest, values', t'⟩, later, same⟩ := Option.map_eq_some_iff.mp h
      cases same
      -- the list is what stands before the place, the dialogue there, and what stands after it
      obtain ⟨bound, at_k⟩ := List.getElem?_eq_some_iff.mp here
      have length : (pool.take k).length = k := List.length_take_of_le (Nat.le_of_lt bound)
      have split : pool = pool.take k ++ ask c next :: pool.drop (k + 1) := by
        rw [← at_k, List.getElem_cons_drop, List.take_append_drop]
      have goes := ih later
      rw [List.set_eq_take_append_cons_drop, if_pos bound] at goes
      have turn := Interleaving.step _ _ c next goes
      rw [length, ← split] at turn
      exact turn
    · cases h

end Armory.Dialogue
