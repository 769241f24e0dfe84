/-! Programs that talk to something outside them. A dialogue either is done with a value, or makes a call and
goes on with the reply, whatever it is; so it is a plain value, and what it does depends only on the replies.
Running it against an answering state gives the value, the last state and the calls in order. -/
namespace Armory

/-- Calls of some kind, and what replies each call can get. -/
structure Interface where
  Call : Type
  Reply : Call → Type

/-- A program that makes calls of an interface and ends with a value. -/
inductive Dialogue (I : Interface) (α : Type) where
  | done (a : α)
  | ask (call : I.Call) (next : I.Reply call → Dialogue I α)

namespace Dialogue

variable {I J : Interface} {α β σ : Type}

/-- One dialogue after another. -/
def andThen (d : Dialogue I α) (f : α → Dialogue I β) : Dialogue I β :=
  match d with
  | done a => f a
  | ask call next => ask call fun reply => (next reply).andThen f

instance : Monad (Dialogue I) where
  pure := done
  bind := andThen

/-- The dialogue that makes one call and ends with its reply. -/
def call (c : I.Call) : Dialogue I (I.Reply c) := ask c done

/-- The dialogues of a list one after another, with their values. -/
def each {γ : Type} (f : γ → Dialogue I β) : List γ → Dialogue I (List β)
  | [] => done []
  | x :: rest => (f x).andThen fun b => (each f rest).andThen fun bs => done (b :: bs)

/-- Something that replies to calls, and changes by doing so. -/
abbrev Answering (I : Interface) (σ : Type) := (c : I.Call) → σ → I.Reply c × σ

/-- How a dialogue went. -/
structure Run (I : Interface) (α σ : Type) where
  value : α
  state : σ
  /-- The calls that were made, in order. -/
  calls : List I.Call

/-- A dialogue against something that answers. -/
def run (answer : Answering I σ) : Dialogue I α → σ → Run I α σ
  | done a, s => ⟨a, s, []⟩
  | ask c next, s =>
    let r := run answer (next (answer c s).1) (answer c s).2
    { r with calls := c :: r.calls }

/-- A dialogue whose calls are carried out by dialogues of another interface. -/
def through (f : (c : I.Call) → Dialogue J (I.Reply c)) : Dialogue I α → Dialogue J α
  | done a => done a
  | ask c next => (f c).andThen fun reply => through f (next reply)

/-! ## Laws -/

@[simp] theorem pure_eq (a : α) : (pure a : Dialogue I α) = done a := rfl

@[simp] theorem bind_eq (d : Dialogue I α) (f : α → Dialogue I β) : d >>= f = d.andThen f := rfl

@[simp] theorem done_andThen (a : α) (f : α → Dialogue I β) : (done a).andThen f = f a := rfl

@[simp] theorem ask_andThen (c : I.Call) (next : I.Reply c → Dialogue I α)
    (f : α → Dialogue I β) :
    (ask c next).andThen f = ask c fun reply => (next reply).andThen f := rfl

theorem andThen_assoc {γ : Type} (d : Dialogue I α) (f : α → Dialogue I β)
    (g : β → Dialogue I γ) :
    (d.andThen f).andThen g = d.andThen fun a => (f a).andThen g := by
  induction d with
  | done a => rfl
  | ask c next ih => simp [ih]

/-- A batch of prepared members is a batch that prepares each of them. -/
theorem each_map {γ δ : Type} (f : γ → Dialogue I β) (g : δ → γ) (xs : List δ) :
    each f (xs.map g) = each (fun x => f (g x)) xs := by
  induction xs with
  | nil => rfl
  | cons x rest ih => simp [each, ih]

theorem each_map_id {γ : Type} (f : γ → Dialogue I β) (xs : List γ) : each id (xs.map f) = each f xs :=
  each_map id f xs

@[simp] theorem run_done (answer : Answering I σ) (a : α) (s : σ) :
    run answer (done a) s = ⟨a, s, []⟩ := rfl

@[simp] theorem run_ask (answer : Answering I σ) (c : I.Call)
    (next : I.Reply c → Dialogue I α) (s : σ) :
    run answer (ask c next) s =
      { run answer (next (answer c s).1) (answer c s).2 with
        calls := c :: (run answer (next (answer c s).1) (answer c s).2).calls } := rfl

/-- A run of two dialogues is a run of the first and then, from where it ended, a run of the second. -/
theorem run_andThen (answer : Answering I σ) (d : Dialogue I α) (f : α → Dialogue I β) (s : σ) :
    run answer (d.andThen f) s =
      { run answer (f (run answer d s).value) (run answer d s).state with
        calls := (run answer d s).calls ++
          (run answer (f (run answer d s).value) (run answer d s).state).calls } := by
  induction d generalizing s with
  | done a => simp
  | ask c next ih => simp [ih]

end Dialogue
end Armory
