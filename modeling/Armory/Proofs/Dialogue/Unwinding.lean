import Armory.Proofs.Dialogue.Concurrent

/-! Callers who know nothing of each other. Several procedures are under way at the same time, each for some caller;
what a call of one caller is answered, and what it changes in that caller's view of the state, depends on that view
alone, and the views of all others it leaves as they are. Main statement: the procedures of one caller go, exchange by
exchange, as they would go without all the others (`Unwinding.alone`). -/
namespace Armory

open Dialogue (Answering Exchange)

variable {I J : Interface} {α β κ σ τ : Type}

/-! ## What a program keeps to -/

/-- As long as replies are what they are said to be, every call of a dialogue meets a condition, and so does its
value. -/
inductive Dialogue.Keeps (call : I.Call → Prop) (told : (c : I.Call) → I.Reply c → Prop) (post : α → Prop) :
    Dialogue I α → Prop
  | done {a : α} (holds : post a) : Keeps call told post (.done a)
  | ask {c : I.Call} {next : I.Reply c → Dialogue I α} (here : call c)
      (later : ∀ reply, told c reply → Keeps call told post (next reply)) :
      Keeps call told post (.ask c next)

/-- As long as replies are what they are said to be, every call of a procedure meets a condition, in whatever order
they come, and so does its value. -/
inductive Procedure.Keeps (call : I.Call → Prop) (told : (c : I.Call) → I.Reply c → Prop) {α : Type}
    (post : α → Prop) : Procedure I α → Prop
  | done {a : α} (holds : post a) : Keeps call told post (.done a)
  | ask {c : I.Call} {next : I.Reply c → Procedure I α} (here : call c)
      (later : ∀ reply, told c reply → Keeps call told post (next reply)) :
      Keeps call told post (.ask c next)
  | together {β : Type} {lanes : List (Dialogue I β)} {next : List β → Procedure I α}
      (here : ∀ d ∈ lanes, d.Keeps call told fun _ => True) (later : ∀ values, Keeps call told post (next values)) :
      Keeps call told post (.together lanes next)

section Keeps

variable {call : I.Call → Prop} {told : (c : I.Call) → I.Reply c → Prop} {call' : J.Call → Prop}
  {told' : (c : J.Call) → J.Reply c → Prop} {post : α → Prop} {post' : β → Prop}

namespace Dialogue

variable {d : Dialogue I α} {f : α → Dialogue I β} {g : (c : I.Call) → Dialogue J (I.Reply c)}

theorem Keeps.andThen (h : Keeps call told post d) (hf : ∀ a, post a → Keeps call told post' (f a)) :
    Keeps call told post' (d.andThen f) := by
  induction h with
  | done holds => exact hf _ holds
  | ask here _ ih => exact .ask here ih

/-- What carries the calls of a dialogue out keeps to what is asked of it, so the dialogue does. -/
theorem Keeps.through (h : Keeps call told post d) (hg : ∀ c, call c → (g c).Keeps call' told' (told c)) :
    Keeps call' told' post (d.through g) := by
  induction h with
  | done holds => exact .done holds
  | ask here _ ih => exact (hg _ here).andThen ih

/-- Every dialogue keeps to what demands nothing. -/
theorem keeps_true (d : Dialogue I α) : Keeps (fun _ => True) (fun _ _ => True) (fun _ => True) d := by
  induction d with
  | done a => exact .done trivial
  | ask c next ih => exact .ask trivial fun reply _ => ih reply

end Dialogue

namespace Procedure

variable {p : Procedure I α} {f : α → Procedure I β} {g : (c : I.Call) → Dialogue J (I.Reply c)}

theorem Keeps.ofDialogue {d : Dialogue I α} (h : d.Keeps call told post) :
    Keeps call told post (ofDialogue d) := by
  induction h with
  | done holds => exact .done holds
  | ask here _ ih => exact .ask here ih

theorem Keeps.andThen (h : Keeps call told post p) (hf : ∀ a, post a → Keeps call told post' (f a)) :
    Keeps call told post' (p.andThen f) := by
  induction h with
  | done holds => exact hf _ holds
  | ask here _ ih => exact .ask here ih
  | together here _ ih => exact .together here ih

theorem Keeps.through (h : Keeps call told post p) (hg : ∀ c, call c → (g c).Keeps call' told' (told c)) :
    Keeps call' told' post (p.through g) := by
  induction h with
  | done holds => exact .done holds
  | ask here _ ih => exact (Keeps.ofDialogue (hg _ here)).andThen ih
  | together here _ ih => exact .together (List.forall_mem_map.mpr fun d hd => (here d hd).through hg) ih

theorem keeps_true (p : Procedure I α) : Keeps (fun _ => True) (fun _ _ => True) (fun _ => True) p := by
  induction p with
  | done a => exact .done trivial
  | ask c next ih => exact .ask trivial fun reply _ => ih reply
  | together lanes next ih => exact .together (fun d _ => d.keeps_true) ih

/-- The next call of a procedure meets the condition, and what follows keeps to it. -/
theorem Keeps.turn (h : Keeps call told post p) {c : I.Call} {later : I.Reply c → Procedure I α}
    (turn : Turn p c later) : call c ∧ ∀ reply, told c reply → Keeps call told post (later reply) := by
  induction turn with
  | ask c next =>
    cases h with
    | ask here later => exact ⟨here, later⟩
  | lane front back c own next =>
    cases h with
    | together here later =>
      obtain ⟨before, lane⟩ := List.forall_mem_append.mp here
      obtain ⟨lane, after⟩ := List.forall_mem_cons.mp lane
      cases lane with
      | ask here own =>
        exact ⟨here, fun reply mine => .together
          (List.forall_mem_append.mpr ⟨before, List.forall_mem_cons.mpr ⟨own reply mine, after⟩⟩) later⟩
  | joined _ ih =>
    cases h with
    | together _ later => exact ih (later _)

end Procedure

end Keeps

namespace Dialogue

/-! ## Callers -/

/-- What one caller has among the things of all. -/
def ofCaller {ω : Type*} [DecidableEq κ] (k : κ) (callers : List κ) (xs : List ω) : List ω :=
  ((callers.zip xs).filter fun x => x.1 = k).map (·.2)

/-- Each caller has a view of the state of its own. A call that is allowed is answered, and changes its caller's
view, by what that view is; the views of all others stay as they are. -/
structure Unwinding (answer : Answering I σ) (caller : I.Call → κ) (view : κ → σ → τ)
    (allowed : I.Call → Prop) (told : (c : I.Call) → I.Reply c → Prop) : Prop where
  told : ∀ {c s}, allowed c → told c (answer c s).1
  own : ∀ {c s s'}, allowed c → view (caller c) s = view (caller c) s' →
    (answer c s).1 = (answer c s').1 ∧ view (caller c) (answer c s).2 = view (caller c) (answer c s').2
  others : ∀ {c s k}, allowed c → k ≠ caller c → view k (answer c s).2 = view k s

section Split

universe v v'

variable {ω : Type v} {ω' : Type v'} {R : κ → ω → Prop} {callers : List κ} {front back : List ω} {x : ω}

theorem ofCaller_map [DecidableEq κ] (k : κ) (callers : List κ) (xs : List ω) (f : ω → ω') :
    ofCaller k callers (xs.map f) = (ofCaller k callers xs).map f := by
  rw [ofCaller, List.zip_map_right, List.filter_map, List.map_map, ofCaller, List.map_map]
  rfl

/-- Where things come with their callers, what a caller has is what comes with it. -/
theorem ofCaller_callers [DecidableEq κ] (k : κ) (xs : List (κ × ω)) :
    ofCaller k (xs.map (·.1)) xs = xs.filter (·.1 = k) := by
  induction xs with
  | nil => rfl
  | cons x rest ih =>
    rw [ofCaller] at ih ⊢
    rw [List.map_cons, List.zip_cons_cons, List.filter_cons, List.filter_cons]
    split <;> simp [ih]

theorem ofCaller_append_cons [DecidableEq κ] {callersFront callersBack : List κ} (j k : κ)
    (length : callersFront.length = front.length) :
    ofCaller k (callersFront ++ j :: callersBack) (front ++ x :: back) =
      ofCaller k callersFront front ++ (if j = k then [x] else []) ++ ofCaller k callersBack back := by
  rw [ofCaller, List.zip_append length, List.zip_cons_cons, List.filter_append, List.filter_cons]
  by_cases h : j = k <;> simp [h, ofCaller]

/-- What holds between two lists, place by place, holds between what a caller has of them. -/
theorem forall₂_ofCaller [DecidableEq κ] {S : ω → ω' → Prop} {xs : List ω} {ys : List ω'} (h : List.Forall₂ S xs ys)
    (k : κ) (callers : List κ) : List.Forall₂ S (ofCaller k callers xs) (ofCaller k callers ys) := by
  induction h generalizing callers with
  | nil => simp [ofCaller]
  | cons here _ ih =>
    cases callers with
    | nil => simp [ofCaller]
    | cons j callers =>
      have rest := ih callers
      unfold ofCaller at rest ⊢
      rw [List.zip_cons_cons, List.zip_cons_cons, List.filter_cons, List.filter_cons]
      split
      · exact .cons here rest
      · exact rest

/-- Where each thing has a caller, one thing in the middle has one too, and it can be exchanged. -/
theorem forall₂_append_cons (h : List.Forall₂ R callers (front ++ x :: back)) :
    ∃ callersFront j callersBack, callers = callersFront ++ j :: callersBack ∧
      callersFront.length = front.length ∧ R j x ∧
      ∀ y, R j y → List.Forall₂ R callers (front ++ y :: back) := by
  induction front generalizing callers with
  | nil =>
    cases h with
    | @cons j _ ks _ here rest =>
      exact ⟨[], j, ks, rfl, rfl, here, fun y hy => .cons hy rest⟩
  | cons z front ih =>
    cases h with
    | @cons j _ ks _ first rest =>
      obtain ⟨callersFront, i, callersBack, rfl, length, here, exchange⟩ := ih rest
      exact ⟨j :: callersFront, i, callersBack, rfl, congrArg (· + 1) length, here,
        fun y hy => .cons first (exchange y hy)⟩

end Split

namespace Unwinding

variable [DecidableEq κ] {answer : Answering I σ} {caller : I.Call → κ} {view : κ → σ → τ}
  {allowed : I.Call → Prop} {told : (c : I.Call) → I.Reply c → Prop} {callers : List κ}
  {pool : List (Procedure I β)} {s t : σ} {talk : List (Nat × Exchange I)} {values : List β}

/-- **Each caller is as good as alone.** From a state of which the caller has the same view, its procedures can go on
without those of all others: they make the same exchanges in the same order, end with the same values, and leave the
caller with the same view. -/
theorem alone (unwinding : Unwinding answer caller view allowed told)
    (h : Procedure.Interleaving answer pool s talk values t)
    (members : List.Forall₂ (fun j p =>
      Procedure.Keeps (fun c => caller c = j ∧ allowed c) told (fun _ => True) p) callers pool)
    (k : κ) {s' : σ} (same : view k s = view k s') :
    ∃ talk' t', Procedure.Interleaving answer (ofCaller k callers pool) s' talk' (ofCaller k callers values) t' ∧
      talk'.map (·.2) = (talk.map (·.2)).filter (fun e => caller e.1 = k) ∧ view k t = view k t' := by
  induction h generalizing callers s' with
  | done ended s => exact ⟨[], s', .done (forall₂_ofCaller ended k callers) s', rfl, same⟩
  | @step front back p c later turn s t talk values rest ih =>
    obtain ⟨callersFront, j, callersBack, rfl, length, here, exchange⟩ := forall₂_append_cons members
    obtain ⟨⟨rfl, admitted⟩, goesOn⟩ := here.turn turn
    have members' := exchange _ (goesOn _ (unwinding.told (s := s) admitted))
    rw [ofCaller_append_cons _ _ length]
    by_cases hk : caller c = k
    · -- the caller itself: alone it gets the same reply
      subst hk
      obtain ⟨reply, seen⟩ := unwinding.own admitted same
      obtain ⟨talk', t', solo, order, same'⟩ := ih members' seen
      rw [ofCaller_append_cons _ _ length, if_pos rfl, List.append_assoc, List.singleton_append, reply] at solo
      rw [if_pos rfl, List.append_assoc, List.singleton_append]
      refine ⟨_, t', .step _ _ turn solo, ?_, same'⟩
      rw [List.map_cons, order, List.map_cons, List.filter_cons_of_pos (by simp), reply]
    · -- another caller, of whom this one sees nothing
      have unseen := (unwinding.others (s := s) admitted (Ne.symm hk)).trans same
      obtain ⟨talk', t', solo, order, same'⟩ := ih members' unseen
      rw [ofCaller_append_cons _ _ length, if_neg hk] at solo
      rw [if_neg hk]
      refine ⟨talk', t', solo, ?_, same'⟩
      rw [order, List.map_cons, List.filter_cons_of_neg (by simpa using hk)]

end Unwinding

end Dialogue
end Armory
