import Mathlib.Data.List.Forall2
import Armory.Proofs.Dialogue.Batch

/-! Calls with their replies. Whatever answers a dialogue, all that the dialogue sees of it is a list of
exchanges, so what holds of every such list holds against every partner. Main statements: the exchanges of a
composed dialogue split into those of its parts (`goes_andThen`, `goes_each`), and fixed replies leave a
dialogue one way to go (`Goes.unique`). -/
namespace Armory.Dialogue

variable {I : Interface} {α β γ σ : Type}

/-- A call with the reply that it got. -/
abbrev Exchange (I : Interface) := (c : I.Call) × I.Reply c

/-- The exchanges of a run, in order. -/
def exchanges (answer : Answering I σ) : Dialogue I α → σ → List (Exchange I)
  | done _, _ => []
  | ask c next, s => ⟨c, (answer c s).1⟩ :: exchanges answer (next (answer c s).1) (answer c s).2

/-- A dialogue makes the calls of some exchanges, in order, and after their replies ends with a value. -/
inductive Goes : Dialogue I α → List (Exchange I) → α → Prop
  | done (a : α) : Goes (.done a) [] a
  | ask {c : I.Call} {next : I.Reply c → Dialogue I α} {reply : I.Reply c}
      {talk : List (Exchange I)} {a : α} (rest : Goes (next reply) talk a) :
      Goes (.ask c next) (⟨c, reply⟩ :: talk) a

/-- The answering that gives fixed replies. -/
def fixed (reply : (c : I.Call) → I.Reply c) : Answering I Unit := fun c s => (reply c, s)

theorem goes_exchanges (answer : Answering I σ) (d : Dialogue I α) (s : σ) :
    Goes d (exchanges answer d s) (run answer d s).value := by
  induction d generalizing s with
  | done a => exact .done a
  | ask c next ih => exact .ask (ih _ _)

theorem map_fst_exchanges (answer : Answering I σ) (d : Dialogue I α) (s : σ) :
    (exchanges answer d s).map (·.1) = (run answer d s).calls := by
  induction d generalizing s with
  | done a => rfl
  | ask c next ih => simp [exchanges, ih]

@[simp] theorem exchanges_done (answer : Answering I σ) (a : α) (s : σ) :
    exchanges answer (done a) s = [] := rfl

theorem exchanges_andThen (answer : Answering I σ) (d : Dialogue I α) (f : α → Dialogue I β)
    (s : σ) :
    exchanges answer (d.andThen f) s = exchanges answer d s ++
      exchanges answer (f (run answer d s).value) (run answer d s).state := by
  induction d generalizing s with
  | done a => rfl
  | ask c next ih => simp [exchanges, ih]

theorem exchanges_each_cons (answer : Answering I σ) (f : γ → Dialogue I β) (x : γ)
    (rest : List γ) (s : σ) :
    exchanges answer (each f (x :: rest)) s = exchanges answer (f x) s ++
      exchanges answer (each f rest) (run answer (f x) s).state := by
  simp [each, exchanges_andThen]

theorem goes_done {a b : α} {talk : List (Exchange I)} :
    Goes (done a) talk b ↔ talk = [] ∧ a = b := by
  constructor
  · intro h
    cases h
    exact ⟨rfl, rfl⟩
  · rintro ⟨rfl, rfl⟩
    exact .done a

theorem goes_ask {c : I.Call} {next : I.Reply c → Dialogue I α} {talk : List (Exchange I)}
    {a : α} :
    Goes (ask c next) talk a ↔
      ∃ reply rest, talk = ⟨c, reply⟩ :: rest ∧ Goes (next reply) rest a := by
  constructor
  · intro h
    cases h with
    | ask rest => exact ⟨_, _, rfl, rest⟩
  · rintro ⟨reply, rest, rfl, h⟩
    exact .ask h

theorem goes_ask_done {c : I.Call} {f : I.Reply c → α} {talk : List (Exchange I)} {a : α} :
    Goes (ask c fun reply => done (f reply)) talk a ↔ ∃ reply, talk = [⟨c, reply⟩] ∧ f reply = a := by
  rw [goes_ask]
  constructor
  · rintro ⟨reply, rest, rfl, h⟩
    obtain ⟨rfl, value⟩ := goes_done.mp h
    exact ⟨reply, rfl, value⟩
  · rintro ⟨reply, rfl, rfl⟩
    exact ⟨reply, [], rfl, .done _⟩

/-- The exchanges of two dialogues, one after the other, are those of the first and then those of the
second. -/
theorem goes_andThen {d : Dialogue I α} {f : α → Dialogue I β} {talk : List (Exchange I)} {b : β} :
    Goes (d.andThen f) talk b ↔
      ∃ a first second, talk = first ++ second ∧ Goes d first a ∧ Goes (f a) second b := by
  induction d generalizing talk with
  | done a =>
    constructor
    · exact fun h => ⟨a, [], talk, rfl, .done a, h⟩
    · rintro ⟨a', first, second, rfl, h, h'⟩
      obtain ⟨rfl, rfl⟩ := goes_done.mp h
      exact h'
  | ask c next ih =>
    constructor
    · intro h
      obtain ⟨reply, rest, rfl, hrest⟩ := goes_ask.mp h
      obtain ⟨a, first, second, rfl, hfirst, hsecond⟩ := (ih reply).mp hrest
      exact ⟨a, ⟨c, reply⟩ :: first, second, rfl, .ask hfirst, hsecond⟩
    · rintro ⟨a, first, second, rfl, h, hsecond⟩
      obtain ⟨reply, rest, rfl, hrest⟩ := goes_ask.mp h
      exact .ask ((ih reply).mpr ⟨a, rest, second, rfl, hrest, hsecond⟩)

/-- The exchanges of a batch are those of its members, one after the other, and its values are theirs. -/
theorem goes_each {f : γ → Dialogue I β} {xs : List γ} {talk : List (Exchange I)}
    {values : List β} (h : Goes (each f xs) talk values) :
    ∃ parts : List (List (Exchange I) × β),
      List.Forall₂ (fun x part => Goes (f x) part.1 part.2) xs parts ∧
        talk = (parts.map (·.1)).flatten ∧ values = parts.map (·.2) := by
  induction xs generalizing talk values with
  | nil =>
    obtain ⟨rfl, rfl⟩ := goes_done.mp h
    exact ⟨[], .nil, rfl, rfl⟩
  | cons x rest ih =>
    obtain ⟨b, first, later, rfl, hx, h⟩ := goes_andThen.mp h
    obtain ⟨bs, second, last, rfl, hrest, h⟩ := goes_andThen.mp h
    obtain ⟨rfl, rfl⟩ := goes_done.mp h
    obtain ⟨parts, members, rfl, rfl⟩ := ih hrest
    exact ⟨(first, b) :: parts, .cons hx members, by simp, rfl⟩

/-- Where the calls of each member are known, so are those of the batch. -/
theorem map_fst_flatten {calls : γ → List I.Call} {xs : List γ}
    {parts : List (List (Exchange I))}
    (h : List.Forall₂ (fun x part => part.map (·.1) = calls x) xs parts) :
    parts.flatten.map (·.1) = xs.flatMap calls := by
  induction h with
  | nil => rfl
  | cons first _ ih => rw [List.flatten_cons, List.map_append, first, ih, List.flatMap_cons]

/-- Where a value tells whether its own exchanges are of some kind, the values of a batch tell whether all
of them are. -/
theorem forall_flatten_iff {P : Exchange I → Prop} {good : β → Prop} {xs : List γ}
    {parts : List (List (Exchange I) × β)}
    (h : List.Forall₂ (fun _ part => good part.2 ↔ ∀ e ∈ part.1, P e) xs parts) :
    (∀ v ∈ parts.map (·.2), good v) ↔ ∀ e ∈ (parts.map (·.1)).flatten, P e := by
  induction h with
  | nil => simp
  | cons first _ ih =>
    rw [List.map_cons, List.map_cons, List.forall_mem_cons, List.flatten_cons,
      List.forall_mem_append, first, ih]

/-- With fixed replies there is one way to go. -/
theorem Goes.unique {d : Dialogue I α} {talk : List (Exchange I)} {a : α} (h : Goes d talk a)
    {reply : (c : I.Call) → I.Reply c} (replies : ∀ x ∈ talk, x.2 = reply x.1) :
    talk = exchanges (fixed reply) d () ∧ a = (run (fixed reply) d ()).value := by
  induction h with
  | done a => exact ⟨rfl, rfl⟩
  | ask rest ih =>
    obtain ⟨first, later⟩ := List.forall_mem_cons.mp replies
    obtain ⟨talk, value⟩ := ih later
    simp only at first
    subst first
    exact ⟨by rw [talk]; rfl, value⟩

end Armory.Dialogue
