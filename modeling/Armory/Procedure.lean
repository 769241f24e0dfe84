import Armory.Dialogue

/-! Programs that have several things under way at once. A procedure makes calls one after the other, as a dialogue
does; besides, it can begin several dialogues together and go on when all of them are done. In which order the calls
of these are made is left open: each way to settle it makes a dialogue of a procedure. -/
namespace Armory

/-- A program that makes calls of an interface, some of them in dialogues that are under way at the same time, and
ends with a value. -/
inductive Procedure (I : Interface) (α : Type) : Type 1 where
  | done (a : α)
  | ask (call : I.Call) (next : I.Reply call → Procedure I α)
  | together {β : Type} (lanes : List (Dialogue I β)) (next : List β → Procedure I α)

namespace Procedure

variable {I J : Interface} {α β γ : Type}

/-- One procedure after another. -/
def andThen (p : Procedure I α) (f : α → Procedure I β) : Procedure I β :=
  match p with
  | done a => f a
  | ask call next => ask call fun reply => (next reply).andThen f
  | together lanes next => together lanes fun values => (next values).andThen f

instance : Monad (Procedure I) where
  pure := done
  bind := andThen

/-- A dialogue, as a procedure that never has two things under way. -/
def ofDialogue : Dialogue I α → Procedure I α
  | .done a => done a
  | .ask call next => ask call fun reply => ofDialogue (next reply)

/-- A procedure whose calls are carried out by dialogues of another interface. -/
def through (f : (c : I.Call) → Dialogue J (I.Reply c)) : Procedure I α → Procedure J α
  | done a => done a
  | ask call next => (ofDialogue (f call)).andThen fun reply => (next reply).through f
  | together lanes next => together (lanes.map (·.through f)) fun values => (next values).through f

/-- A way to carry out dialogues that are under way at the same time. -/
abbrev Way (I : Interface) := {β : Type} → List (Dialogue I β) → Dialogue I (List β)

/-- The dialogue that a procedure is if there is one way to carry out what is under way at the same time. -/
def along (way : Way I) : Procedure I α → Dialogue I α
  | done a => .done a
  | ask call next => .ask call fun reply => (next reply).along way
  | together lanes next => (way lanes).andThen fun values => (next values).along way

/-- The dialogue that a procedure is if nothing is begun before what was begun earlier is done. -/
def inTurn (p : Procedure I α) : Dialogue I α := p.along (Dialogue.each id)

/-! ## Laws -/

variable {way : Way I}

@[simp] theorem pure_eq (a : α) : (pure a : Procedure I α) = done a := rfl

@[simp] theorem bind_eq (p : Procedure I α) (f : α → Procedure I β) : p >>= f = p.andThen f := rfl

@[simp] theorem done_andThen (a : α) (f : α → Procedure I β) : (done a).andThen f = f a := rfl

theorem andThen_assoc (p : Procedure I α) (f : α → Procedure I β) (g : β → Procedure I γ) :
    (p.andThen f).andThen g = p.andThen fun a => (f a).andThen g := by
  induction p with
  | done a => rfl
  | ask call next ih => simp only [andThen, ih]
  | together lanes next ih => simp only [andThen, ih]

@[simp] theorem along_done (a : α) : (done a : Procedure I α).along way = .done a := rfl

@[simp] theorem along_together (lanes : List (Dialogue I β)) (next : List β → Procedure I α) :
    (together lanes next).along way = (way lanes).andThen fun values => (next values).along way := rfl

@[simp] theorem along_ofDialogue (d : Dialogue I α) : (ofDialogue d).along way = d := by
  induction d with
  | done a => rfl
  | ask call next ih => simp only [ofDialogue, along, ih]

theorem along_andThen (p : Procedure I α) (f : α → Procedure I β) :
    (p.andThen f).along way = (p.along way).andThen fun a => (f a).along way := by
  induction p with
  | done a => rfl
  | ask call next ih => simp only [andThen, along, ih, Dialogue.ask_andThen]
  | together lanes next ih => simp only [andThen, along, ih, Dialogue.andThen_assoc]

end Procedure
end Armory
