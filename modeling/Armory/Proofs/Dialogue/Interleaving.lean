import Armory.Proofs.Dialogue.Exchange

/-! Dialogues under way at the same time. They share what answers them: at each step one of them makes its
next call, and which one it is, is left open. Main statements: what every call keeps, all of them together
keep (`Interleaving.invariant`); each of them goes its own way (`Interleaving.goes`); and to run them one
after the other is one of the ways (`interleaving_each`). -/
namespace Armory.Dialogue

variable {I : Interface} {β γ σ : Type} {answer : Answering I σ} {pool : List (Dialogue I β)}
  {s t : σ} {talk : List (Nat × Exchange I)} {values : List β}

/-- Dialogues under way at the same time, from a state until all of them are done: the exchanges in order,
each with the place of the dialogue it belongs to, the values of the dialogues, and the last state. -/
inductive Interleaving (answer : Answering I σ) :
    List (Dialogue I β) → σ → List (Nat × Exchange I) → List β → σ → Prop
  | done (values : List β) (s : σ) : Interleaving answer (values.map .done) s [] values s
  | step (front back : List (Dialogue I β)) (c : I.Call) (next : I.Reply c → Dialogue I β) {s t : σ}
      {talk : List (Nat × Exchange I)} {values : List β}
      (rest : Interleaving answer (front ++ next (answer c s).1 :: back) (answer c s).2 talk
        values t) :
      Interleaving answer (front ++ .ask c next :: back) s
        ((front.length, ⟨c, (answer c s).1⟩) :: talk) values t

/-- The exchanges of one dialogue among those of several. -/
def partOf (k : Nat) (talk : List (Nat × Exchange I)) : List (Exchange I) :=
  (talk.filter fun e => e.1 == k).map (·.2)

/-- A list with one entry exchanged has its other entries in their places. -/
theorem getElem?_append_cons_of_ne {α : Type} {front back : List α} {a b : α} {k : Nat}
    (h : k ≠ front.length) : (front ++ a :: back)[k]? = (front ++ b :: back)[k]? := by
  rcases Nat.lt_or_gt_of_ne h with hlt | hgt
  · rw [List.getElem?_append_left hlt, List.getElem?_append_left hlt]
  · obtain ⟨j, rfl⟩ := Nat.exists_eq_add_of_lt hgt
    simp [List.getElem?_append_right, Nat.add_assoc]

theorem mem_partOf {k : Nat} {x : Exchange I} : x ∈ partOf k talk ↔ (k, x) ∈ talk := by
  simp [partOf]

/-- What has no place among the dialogues has no exchanges. -/
theorem partOf_eq_nil {k n : Nat} (only : ∀ e ∈ talk, e.1 < n) (out : n ≤ k) : partOf k talk = [] := by
  rw [partOf, List.map_eq_nil_iff, List.filter_eq_nil_iff]
  intro e he
  have bound := only e he
  simp only [beq_iff_eq]
  omega

namespace Interleaving

/-- **What one call keeps, a run of many dialogues keeps.** -/
theorem invariant (h : Interleaving answer pool s talk values t)
    (Inv : List (Dialogue I β) → σ → Prop) (start : Inv pool s)
    (step : ∀ front c next back s, Inv (front ++ .ask c next :: back) s →
      Inv (front ++ next (answer c s).1 :: back) (answer c s).2) :
    Inv (values.map .done) t := by
  induction h with
  | done => exact start
  | step front back c next rest ih => exact ih (step front c next back _ start)

/-- What the calls of a run keep, with the replies they are given, the run keeps. -/
theorem keeps (h : Interleaving answer pool s talk values t) (kind : Exchange I → Prop) (Inv : σ → Prop)
    (all : ∀ e ∈ talk, kind e.2)
    (step : ∀ c s, kind ⟨c, (answer c s).1⟩ → Inv s → Inv (answer c s).2) (start : Inv s) : Inv t := by
  induction h with
  | done => exact start
  | step front back c next rest ih =>
    obtain ⟨first, later⟩ := List.forall_mem_cons.mp all
    exact ih later (step c _ first start)

theorem length_eq (h : Interleaving answer pool s talk values t) : values.length = pool.length := by
  induction h with
  | done values s => exact (List.length_map _).symm
  | step front back c next rest ih => simpa using ih

/-- Each of the dialogues goes its own way. -/
theorem goes (h : Interleaving answer pool s talk values t) {k : Nat} {d : Dialogue I β}
    (hd : pool[k]? = some d) : ∃ v, values[k]? = some v ∧ Goes d (partOf k talk) v := by
  induction h generalizing d with
  | done values s =>
    obtain ⟨v, hv, rfl⟩ := Option.map_eq_some_iff.mp (List.getElem?_map.symm.trans hd)
    exact ⟨v, hv, .done v⟩
  | @step front back c next s t talk values rest ih =>
    by_cases hk : k = front.length
    · -- the dialogue that makes the call
      subst hk
      have here : ∀ x : Dialogue I β, (front ++ x :: back)[front.length]? = some x := by simp
      obtain rfl := Option.some.inj ((here _).symm.trans hd)
      obtain ⟨v, hv, goes⟩ := ih (here _)
      exact ⟨v, hv, by simpa [partOf] using goes.ask⟩
    · obtain ⟨v, hv, goes⟩ := ih ((getElem?_append_cons_of_ne hk).trans hd)
      have other : (front.length == k) = false := by simpa using fun e => hk e.symm
      exact ⟨v, hv, by simpa [partOf, other] using goes⟩

/-- No call belongs to anything else. -/
theorem lt_length (h : Interleaving answer pool s talk values t) {e : Nat × Exchange I}
    (he : e ∈ talk) : e.1 < pool.length := by
  induction h with
  | done => cases he
  | step front back c next rest ih =>
    rcases List.mem_cons.mp he with rfl | he
    · simp
    · simpa using ih he

/-- Every reply was given in some state. -/
theorem replies (h : Interleaving answer pool s talk values t) {e : Nat × Exchange I}
    (he : e ∈ talk) : ∃ s, e.2.2 = (answer e.2.1 s).1 := by
  induction h with
  | done => cases he
  | step front back c next rest ih =>
    rcases List.mem_cons.mp he with rfl | he
    · exact ⟨_, rfl⟩
    · exact ih he

/-- One of the dialogues, run to its end before the others go on. -/
theorem ofRun (front back : List (Dialogue I β)) (d : Dialogue I β)
    (h : Interleaving answer (front ++ .done (run answer d s).value :: back) (run answer d s).state
      talk values t) :
    Interleaving answer (front ++ d :: back) s
      ((exchanges answer d s).map (front.length, ·) ++ talk) values t := by
  induction d generalizing s with
  | done a => exact h
  | ask c next ih => exact .step front back c next (ih _ h)

end Interleaving

/-- **One after the other** is a way to run a batch at the same time. -/
theorem interleaving_each (answer : Answering I σ) (f : γ → Dialogue I β) (xs : List γ) (s : σ) :
    ∃ talk, Interleaving answer (xs.map f) s talk (run answer (each f xs) s).value
        (run answer (each f xs) s).state ∧
      talk.map (·.2) = exchanges answer (each f xs) s := by
  -- the induction is on what is left, with the values of what is done in front
  have general : ∀ (xs : List γ) (before : List β) (s : σ),
      ∃ talk, Interleaving answer (before.map .done ++ xs.map f) s talk
          (before ++ (run answer (each f xs) s).value) (run answer (each f xs) s).state ∧
        talk.map (·.2) = exchanges answer (each f xs) s := by
    intro xs
    induction xs with
    | nil =>
      intro before s
      exact ⟨[], by simpa [each] using Interleaving.done before s, rfl⟩
    | cons x rest ih =>
      intro before s
      obtain ⟨talk, h, hx⟩ := ih (before ++ [(run answer (f x) s).value]) (run answer (f x) s).state
      refine ⟨(exchanges answer (f x) s).map (before.length, ·) ++ talk, ?_, ?_⟩
      · rw [run_each_cons]
        have h' := Interleaving.ofRun (s := s) (before.map .done) (rest.map f) (f x)
          (by simpa using h)
        simpa using h'
      · rw [exchanges_each_cons, List.map_append, hx]
        simp [Function.comp_def]
  exact general xs [] s

end Armory.Dialogue
