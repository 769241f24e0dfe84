import Mathlib.Data.List.Forall2
import Armory.Proofs.Dialogue.Together

/-! Procedures under way at the same time. At each step one of them makes its next call; if it has several dialogues
under way itself, any of these may be the one that makes it. Main statements: alone, a procedure has its runs and no
others (`interleaving_singleton_iff`), and there is always a way for all of them to come to their ends
(`exists_interleaving`). -/
namespace Armory.Procedure

open Dialogue (Answering Exchange)

variable {I : Interface} {α β σ : Type}

/-! ## One procedure among others -/

/-- A procedure has come to its end with a value: nothing is left to be called. -/
inductive Ended {α : Type} : Procedure I α → α → Prop
  | done (a : α) : Ended (.done a) a
  | joined {β : Type} {values : List β} {next : List β → Procedure I α} {a : α} (rest : Ended (next values) a) :
      Ended (.together (values.map .done) next) a

/-- A procedure can make a call next, and then goes on with the reply. -/
inductive Turn {α : Type} : Procedure I α → (c : I.Call) → (I.Reply c → Procedure I α) → Prop
  | ask (c : I.Call) (next : I.Reply c → Procedure I α) : Turn (.ask c next) c next
  | lane {β : Type} (front back : List (Dialogue I β)) (c : I.Call) (own : I.Reply c → Dialogue I β)
      (next : List β → Procedure I α) :
      Turn (.together (front ++ .ask c own :: back) next) c fun reply =>
        .together (front ++ own reply :: back) next
  | joined {β : Type} {values : List β} {next : List β → Procedure I α} {c : I.Call}
      {later : I.Reply c → Procedure I α} (rest : Turn (next values) c later) :
      Turn (.together (values.map .done) next) c later

/-- Whatever one procedure can do, another one can do too. -/
structure ActsAs (q p : Procedure I α) : Prop where
  ended : ∀ {a}, Ended p a → Ended q a
  turn : ∀ {c later}, Turn p c later → Turn q c later

theorem ActsAs.refl (p : Procedure I α) : ActsAs p p := ⟨id, id⟩

/-- What is done with all it had under way acts as what follows. -/
theorem ActsAs.joined {values : List β} {next : List β → Procedure I α} {q : Procedure I α}
    (acts : ActsAs q (.together (values.map .done) next)) : ActsAs q (next values) :=
  ⟨fun rest => acts.ended (.joined rest), fun rest => acts.turn (.joined rest)⟩

/-! ## Several procedures -/

/-- Procedures under way at the same time, from a state until all of them have come to their ends: the exchanges in
order, each with the place of the procedure it belongs to, the values of the procedures, and the last state. -/
inductive Interleaving (answer : Answering I σ) :
    List (Procedure I β) → σ → List (Nat × Exchange I) → List β → σ → Prop
  | done {pool : List (Procedure I β)} {values : List β} (ended : List.Forall₂ Ended pool values) (s : σ) :
      Interleaving answer pool s [] values s
  | step (front back : List (Procedure I β)) {p : Procedure I β} {c : I.Call} {later : I.Reply c → Procedure I β}
      (turn : Turn p c later) {s t : σ} {talk : List (Nat × Exchange I)} {values : List β}
      (rest : Interleaving answer (front ++ later (answer c s).1 :: back) (answer c s).2 talk values t) :
      Interleaving answer (front ++ p :: back) s ((front.length, ⟨c, (answer c s).1⟩) :: talk) values t

variable {answer : Answering I σ} {p q : Procedure I α} {s t u : σ} {talk : List (Exchange I)} {a : α}

/-! ## Runs -/

/-- What has nothing left to do under way goes on with what follows. -/
theorem Runs.joined {values : List β} {next : List β → Procedure I α} (h : Runs answer (next values) s talk a t) :
    Runs answer (.together (values.map .done) next) s talk a t :=
  .together (.done values s) h

theorem Runs.of_ended (h : Ended p a) (s : σ) : Runs answer p s [] a s := by
  induction h with
  | done a => exact .done a s
  | joined _ ih => exact ih.joined

theorem Runs.of_turn {c : I.Call} {later : I.Reply c → Procedure I α} (turn : Turn p c later)
    (rest : Runs answer (later (answer c s).1) (answer c s).2 talk a t) :
    Runs answer p s (⟨c, (answer c s).1⟩ :: talk) a t := by
  induction turn with
  | ask c next => exact .ask rest
  | lane front back c own next =>
    cases rest with
    | together moved rest => exact .together (.step front back c own moved) rest
  | joined _ ih => exact (ih rest).joined

/-- **One of the procedures runs to its end** before the others go on. -/
theorem Runs.exists_ended (h : Runs answer p s talk a u) (acts : ActsAs q p) (front back : List (Procedure I α)) :
    ∃ r, Ended r a ∧ ∀ {later : List (Nat × Exchange I)} {values : List α} {t : σ},
      Interleaving answer (front ++ r :: back) u later values t →
      Interleaving answer (front ++ q :: back) s (talk.map (front.length, ·) ++ later) values t := by
  induction h generalizing q with
  | done a s => exact ⟨q, acts.ended (.done a), id⟩
  | @ask c next s u talk a _ ih =>
    obtain ⟨r, ended, goes⟩ := ih (.refl _)
    exact ⟨r, ended, fun rest => .step front back (acts.turn (.ask c next)) (goes rest)⟩
  | @together β lanes next here values s u v talk a moved _ ih =>
    -- the induction goes on over what is under way at the same time
    induction moved generalizing q with
    | done values s =>
      obtain ⟨r, ended, goes⟩ := ih acts.joined
      exact ⟨r, ended, goes⟩
    | @step laneFront laneBack c own s u here values _ moved =>
      obtain ⟨r, ended, goes⟩ := moved ‹_› ih (.refl _)
      exact ⟨r, ended, fun rest =>
        .step front back (acts.turn (.lane laneFront laneBack c own next)) (goes rest)⟩

/-- **Alone, a procedure has its runs** and no others. -/
theorem interleaving_singleton_iff :
    (∃ talk', Interleaving answer [p] s talk' [a] t ∧ talk'.map (·.2) = talk) ↔ Runs answer p s talk a t := by
  constructor
  · rintro ⟨talk', h, rfl⟩
    generalize pooled : [p] = pool at h
    generalize valued : [a] = values at h
    induction h generalizing p with
    | done ended s =>
      subst pooled valued
      cases ended with
      | cons ended _ => exact .of_ended ended s
    | step front back turn rest ih =>
      cases front with
      | nil =>
        obtain ⟨rfl, rfl⟩ := List.cons.inj pooled
        exact .of_turn turn (ih rfl valued)
      | cons first front => simp at pooled
  · intro h
    obtain ⟨r, ended, goes⟩ := h.exists_ended (.refl p) [] []
    exact ⟨_, goes (.done (.cons ended .nil) t), by simp [Function.comp_def]⟩

/-- **There is always a way** for all procedures to come to their ends. -/
theorem exists_interleaving (answer : Answering I σ) (pool : List (Procedure I β)) (s : σ) :
    ∃ talk values t, Interleaving answer pool s talk values t := by
  -- the induction is on what is left, with what has come to its end in front
  suffices general : ∀ (before : List (Procedure I β)) (values : List β), List.Forall₂ Ended before values →
      ∃ talk values t, Interleaving answer (before ++ pool) s talk values t from general [] [] .nil
  induction pool generalizing s with
  | nil =>
    intro before values ended
    exact ⟨[], values, s, .done (by simpa using ended) s⟩
  | cons p rest ih =>
    intro before values ended
    obtain ⟨r, here, goes⟩ := (runs_inTurn answer p s).exists_ended (.refl p) before rest
    obtain ⟨talk, values, t, h⟩ := ih _ (before ++ [r]) _ (List.rel_append ended (.cons here .nil))
    rw [List.append_assoc] at h
    exact ⟨_, values, t, goes h⟩

end Armory.Procedure
