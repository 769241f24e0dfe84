import Armory.Proofs.Dialogue.Parts
import Armory.Procedure

/-! What a procedure can exchange. Dialogues that are under way at the same time make their calls in any order, each
of them its own in their order. Main statements: the exchanges of a composed procedure split into those of its parts
(`Procedure.goes_andThen`); whatever answers, a run of a procedure is one of the ways it can go (`Procedure.Runs.goes`),
and to carry out one thing after the other is one of its runs (`Procedure.runs_inTurn`), and the only one if it never
has several things under way (`Procedure.Serial.run_inTurn`). -/
namespace Armory

open Dialogue (Answering Exchange Interleaving)

variable {I : Interface} {α β σ : Type}

/-- Dialogues make exchanges at the same time, each of them its own, and end with their values. -/
structure Dialogue.Abreast (lanes : List (Dialogue I β)) (talk : List (Nat × Exchange I)) (values : List β) :
    Prop where
  length_eq : values.length = lanes.length
  goes : ∀ {k : Nat} {d : Dialogue I β}, lanes[k]? = some d →
    ∃ v, values[k]? = some v ∧ d.Goes (Dialogue.partOf k talk) v
  lt_length : ∀ e ∈ talk, e.1 < lanes.length

theorem Dialogue.Interleaving.abreast {answer : Answering I σ} {lanes : List (Dialogue I β)} {s t : σ}
    {talk : List (Nat × Exchange I)} {values : List β} (h : Interleaving answer lanes s talk values t) :
    Abreast lanes talk values where
  length_eq := h.length_eq
  goes hd := h.goes hd
  lt_length _ he := h.lt_length he

/-- No dialogue makes an exchange after a later one has begun. -/
def Dialogue.InOrder (talk : List (Nat × Exchange I)) : Prop := talk.Pairwise fun e e' => e.1 ≤ e'.1

/-- To carry out dialogues one after the other is one way to have them under way. -/
theorem Dialogue.exists_abreast_of_goes_each {lanes : List (Dialogue I β)} {talk : List (Exchange I)}
    {values : List β} (h : (each id lanes).Goes talk values) :
    ∃ here, talk = here.map (·.2) ∧ Abreast lanes here values ∧ InOrder here := by
  induction lanes generalizing talk values with
  | nil =>
    obtain ⟨rfl, rfl⟩ := goes_done.mp h
    exact ⟨[], rfl, ⟨rfl, nofun, nofun⟩, .nil⟩
  | cons d rest ih =>
    obtain ⟨v, first, later, rfl, hd, h⟩ := goes_andThen.mp h
    obtain ⟨vs, second, last, rfl, hrest, h⟩ := goes_andThen.mp h
    obtain ⟨rfl, rfl⟩ := goes_done.mp h
    obtain ⟨here, rfl, abreast, order⟩ := ih hrest
    -- the dialogues behind the first have each moved up by one place
    refine ⟨first.map (0, ·) ++ here.map fun e => (e.1 + 1, e.2), by simp [Function.comp_def],
      ⟨by simp [abreast.length_eq], fun {k d'} hk => ?_, fun e he => ?_⟩, ?_⟩
    · cases k with
      | zero =>
        obtain rfl := Option.some.inj hk
        exact ⟨v, rfl, by simpa [partOf, List.filter_map, Function.comp_def] using hd⟩
      | succ k =>
        obtain ⟨v', hv, goes⟩ := abreast.goes (List.getElem?_cons_succ.symm.trans hk)
        exact ⟨v', hv, by simpa [partOf, List.filter_map, Function.comp_def] using goes⟩
    · rcases List.mem_append.mp he with he | he
      · obtain ⟨x, -, rfl⟩ := List.mem_map.mp he
        simp
      · obtain ⟨x, hx, rfl⟩ := List.mem_map.mp he
        simpa using abreast.lt_length x hx
    · refine List.pairwise_append.mpr ⟨?_, ?_, fun e he e' _ => ?_⟩
      · exact List.pairwise_map.mpr (List.pairwise_of_forall fun _ _ => Nat.le_refl 0)
      · exact List.pairwise_map.mpr (order.imp Nat.succ_le_succ)
      · obtain ⟨x, -, rfl⟩ := List.mem_map.mp he
        exact Nat.zero_le _

/-- Dialogues that can each go a way of its own can do so while they are under way at the same time. -/
theorem Dialogue.exists_abreast {lanes : List (Dialogue I β)} {values : List β}
    (h : List.Forall₂ (fun d v => ∃ talk, d.Goes talk v) lanes values) : ∃ here, Abreast lanes here values := by
  suffices ∃ talk, (each id lanes).Goes talk values by
    obtain ⟨talk, goes⟩ := this
    obtain ⟨here, -, abreast, -⟩ := exists_abreast_of_goes_each goes
    exact ⟨here, abreast⟩
  induction h with
  | nil => exact ⟨[], .done []⟩
  | cons own _ ih =>
    obtain ⟨first, own⟩ := own
    obtain ⟨second, rest⟩ := ih
    exact ⟨_, goes_andThen.mpr ⟨_, first, _, rfl, own, goes_andThen.mpr ⟨_, second, [], rfl, rest, .done _⟩⟩⟩

/-- What carries the calls of a dialogue out lets it go one of its ways. -/
theorem Dialogue.exists_goes_of_through {J : Interface} {f : (c : I.Call) → Dialogue J (I.Reply c)}
    {d : Dialogue I α} {talk : List (Exchange J)} {a : α} (h : (d.through f).Goes talk a) :
    ∃ own, d.Goes own a := by
  induction d generalizing talk with
  | done b =>
    obtain ⟨-, rfl⟩ := goes_done.mp h
    exact ⟨[], .done b⟩
  | ask c next ih =>
    obtain ⟨reply, first, rest, -, -, h⟩ := goes_andThen.mp h
    obtain ⟨own, goes⟩ := ih reply h
    exact ⟨⟨c, reply⟩ :: own, goes.ask⟩

namespace Procedure

variable {p : Procedure I α} {f : α → Procedure I β} {talk : List (Exchange I)} {a : α} {b : β} {s t : σ}

/-! ## Exchanges -/

/-- A procedure makes the calls of some exchanges, in order, and after their replies ends with a value. -/
inductive Goes {α : Type} : Procedure I α → List (Exchange I) → α → Prop
  | done (a : α) : Goes (.done a) [] a
  | ask {c : I.Call} {next : I.Reply c → Procedure I α} {reply : I.Reply c} {talk : List (Exchange I)} {a : α}
      (rest : Goes (next reply) talk a) : Goes (.ask c next) (⟨c, reply⟩ :: talk) a
  | together {β : Type} {lanes : List (Dialogue I β)} {next : List β → Procedure I α}
      {here : List (Nat × Exchange I)} {values : List β} {talk : List (Exchange I)} {a : α}
      (abreast : Dialogue.Abreast lanes here values) (rest : Goes (next values) talk a) :
      Goes (.together lanes next) (here.map (·.2) ++ talk) a

theorem goes_done {a' : α} : Goes (done a) talk a' ↔ talk = [] ∧ a = a' := by
  constructor
  · intro h
    cases h
    exact ⟨rfl, rfl⟩
  · rintro ⟨rfl, rfl⟩
    exact .done a

theorem goes_ask {c : I.Call} {next : I.Reply c → Procedure I α} :
    Goes (ask c next) talk a ↔ ∃ reply rest, talk = ⟨c, reply⟩ :: rest ∧ Goes (next reply) rest a := by
  constructor
  · intro h
    cases h with
    | ask rest => exact ⟨_, _, rfl, rest⟩
  · rintro ⟨reply, rest, rfl, h⟩
    exact .ask h

theorem goes_ask_done {c : I.Call} {f : I.Reply c → α} :
    Goes (ask c fun reply => done (f reply)) talk a ↔ ∃ reply, talk = [⟨c, reply⟩] ∧ f reply = a := by
  rw [goes_ask]
  constructor
  · rintro ⟨reply, rest, rfl, h⟩
    obtain ⟨rfl, value⟩ := goes_done.mp h
    exact ⟨reply, rfl, value⟩
  · rintro ⟨reply, rfl, rfl⟩
    exact ⟨reply, [], rfl, .done _⟩

theorem goes_together {lanes : List (Dialogue I β)} {next : List β → Procedure I α} :
    Goes (together lanes next) talk a ↔ ∃ here values rest,
      talk = here.map (·.2) ++ rest ∧ Dialogue.Abreast lanes here values ∧ Goes (next values) rest a := by
  constructor
  · intro h
    cases h with
    | together abreast rest => exact ⟨_, _, _, rfl, abreast, rest⟩
  · rintro ⟨here, values, rest, rfl, abreast, h⟩
    exact .together abreast h

theorem goes_ofDialogue {d : Dialogue I α} : Goes (ofDialogue d) talk a ↔ d.Goes talk a := by
  induction d generalizing talk with
  | done a => exact goes_done.trans Dialogue.goes_done.symm
  | ask c next ih =>
    rw [ofDialogue, goes_ask, Dialogue.goes_ask]
    simp only [ih]

/-- **One procedure after another** makes the exchanges of the first and then those of the second. -/
theorem goes_andThen :
    Goes (p.andThen f) talk b ↔
      ∃ a first second, talk = first ++ second ∧ Goes p first a ∧ Goes (f a) second b := by
  constructor
  · intro h
    induction p generalizing talk with
    | done a => exact ⟨a, [], talk, rfl, .done a, h⟩
    | ask c next ih =>
      obtain ⟨reply, rest, rfl, hrest⟩ := goes_ask.mp h
      obtain ⟨a, first, second, rfl, hfirst, hsecond⟩ := ih reply hrest
      exact ⟨a, ⟨c, reply⟩ :: first, second, rfl, .ask hfirst, hsecond⟩
    | together lanes next ih =>
      obtain ⟨here, values, rest, rfl, abreast, hrest⟩ := goes_together.mp h
      obtain ⟨a, first, second, rfl, hfirst, hsecond⟩ := ih values hrest
      exact ⟨a, here.map (·.2) ++ first, second, (List.append_assoc _ _ _).symm, .together abreast hfirst,
        hsecond⟩
  · rintro ⟨a, first, second, rfl, h, hsecond⟩
    induction h with
    | done a => exact hsecond
    | ask _ ih => exact .ask (ih hsecond)
    | together abreast _ ih =>
      rw [List.append_assoc]
      exact .together abreast (ih hsecond)

theorem goes_of_inTurn (h : p.inTurn.Goes talk a) : Goes p talk a := by
  induction p generalizing talk with
  | done a' =>
    obtain ⟨rfl, rfl⟩ := Dialogue.goes_done.mp h
    exact .done a'
  | ask c next ih =>
    obtain ⟨reply, rest, rfl, hrest⟩ := Dialogue.goes_ask.mp h
    exact .ask (ih reply hrest)
  | together lanes next ih =>
    obtain ⟨values, first, rest, rfl, each, hrest⟩ := Dialogue.goes_andThen.mp h
    obtain ⟨here, rfl, abreast, -⟩ := Dialogue.exists_abreast_of_goes_each each
    exact .together abreast (ih values hrest)

/-- A way to carry out dialogues that are under way at the same time lets each of them go one of its own ways. -/
def Way.Fair (way : Way I) : Prop :=
  ∀ {β : Type} {lanes : List (Dialogue I β)} {talk : List (Exchange I)} {values : List β},
    (way lanes).Goes talk values → List.Forall₂ (fun d v => ∃ own, d.Goes own v) lanes values

/-- **Whatever carries the calls of a procedure out**, and in whatever way what is under way at the same time is
carried out, the procedure goes one of its ways. -/
theorem exists_goes_of_along {J : Interface} {f : (c : I.Call) → Dialogue J (I.Reply c)} {way : Way J}
    (fair : Way.Fair way) {talk : List (Exchange J)} (h : ((p.through f).along way).Goes talk a) :
    ∃ own, Goes p own a := by
  induction p generalizing talk with
  | done b =>
    obtain ⟨-, rfl⟩ := Dialogue.goes_done.mp h
    exact ⟨[], .done b⟩
  | ask c next ih =>
    rw [through, along_andThen] at h
    obtain ⟨reply, first, rest, -, -, h⟩ := Dialogue.goes_andThen.mp h
    obtain ⟨own, goes⟩ := ih reply h
    exact ⟨⟨c, reply⟩ :: own, .ask goes⟩
  | together lanes next ih =>
    obtain ⟨values, first, rest, -, carried, h⟩ := Dialogue.goes_andThen.mp h
    have ends := (List.forall₂_map_left_iff.mp (fair carried)).imp fun d v ended =>
      ended.elim fun _ carried => Dialogue.exists_goes_of_through carried
    obtain ⟨here, abreast⟩ := Dialogue.exists_abreast ends
    obtain ⟨own, goes⟩ := ih values h
    exact ⟨here.map (·.2) ++ own, .together abreast goes⟩

/-! ## Runs -/

/-- From a state, a procedure makes some exchanges with what answers it, and ends with a value in another state. At
each step of what is under way at the same time, any of the dialogues may make its next call. -/
inductive Runs (answer : Answering I σ) {α : Type} : Procedure I α → σ → List (Exchange I) → α → σ → Prop
  | done (a : α) (s : σ) : Runs answer (.done a) s [] a s
  | ask {c : I.Call} {next : I.Reply c → Procedure I α} {s t : σ} {talk : List (Exchange I)} {a : α}
      (rest : Runs answer (next (answer c s).1) (answer c s).2 talk a t) :
      Runs answer (.ask c next) s (⟨c, (answer c s).1⟩ :: talk) a t
  | together {β : Type} {lanes : List (Dialogue I β)} {next : List β → Procedure I α}
      {here : List (Nat × Exchange I)} {values : List β} {s t u : σ} {talk : List (Exchange I)} {a : α}
      (moved : Interleaving answer lanes s here values u) (rest : Runs answer (next values) u talk a t) :
      Runs answer (.together lanes next) s (here.map (·.2) ++ talk) a t

variable {answer : Answering I σ}

/-- **A run of a procedure is one of the ways it can go.** -/
theorem Runs.goes (h : Runs answer p s talk a t) : Goes p talk a := by
  induction h with
  | done a s => exact .done a
  | ask _ ih => exact .ask ih
  | together moved _ ih => exact .together moved.abreast ih

/-- What the calls of a run keep, with the replies they are given, the run keeps. -/
theorem Runs.keeps (h : Runs answer p s talk a t) (kind : Exchange I → Prop) (Inv : σ → Prop)
    (all : ∀ e ∈ talk, kind e) (step : ∀ c s, kind ⟨c, (answer c s).1⟩ → Inv s → Inv (answer c s).2)
    (start : Inv s) : Inv t := by
  induction h with
  | done => exact start
  | ask _ ih =>
    obtain ⟨first, later⟩ := List.forall_mem_cons.mp all
    exact ih later (step _ _ first start)
  | together moved _ ih =>
    obtain ⟨here, later⟩ := List.forall_mem_append.mp all
    exact ih later (moved.keeps kind Inv (List.forall_mem_map.mp here) step start)

/-- **One thing after the other** is a way to carry out a procedure. -/
theorem runs_inTurn (answer : Answering I σ) (p : Procedure I α) (s : σ) :
    let r := Dialogue.run answer p.inTurn s
    Runs answer p s (Dialogue.exchanges answer p.inTurn s) r.value r.state := by
  induction p generalizing s with
  | done a => exact .done a s
  | ask c next ih => exact .ask (ih _ _)
  | together lanes next ih =>
    obtain ⟨here, moved, same⟩ := Dialogue.interleaving_each answer id lanes s
    simp only [inTurn, along_together, Dialogue.exchanges_andThen, Dialogue.run_andThen, ← same]
    rw [List.map_id] at moved
    exact .together moved (ih _ _)

theorem runs_done {a' : α} : Runs answer (done a') s talk a t ↔ talk = [] ∧ a' = a ∧ s = t := by
  constructor
  · intro h
    cases h
    exact ⟨rfl, rfl, rfl⟩
  · rintro ⟨rfl, rfl, rfl⟩
    exact .done a' s

theorem Runs.andThen {u : σ} {first second : List (Exchange I)} (h : Runs answer p s first a u)
    (hf : Runs answer (f a) u second b t) : Runs answer (p.andThen f) s (first ++ second) b t := by
  induction h with
  | done a s => exact hf
  | ask _ ih => exact .ask (ih hf)
  | together moved _ ih =>
    rw [List.append_assoc]
    exact .together moved (ih hf)

/-- **A run of one procedure after another** is a run of the first and then, from where it ended, one of the second. -/
theorem runs_andThen : Runs answer (p.andThen f) s talk b t ↔
    ∃ a u first second, talk = first ++ second ∧ Runs answer p s first a u ∧ Runs answer (f a) u second b t := by
  constructor
  · intro h
    induction p generalizing s talk with
    | done a => exact ⟨a, s, [], talk, rfl, .done a s, h⟩
    | ask c next ih =>
      cases h with
      | ask rest =>
        obtain ⟨a, u, first, second, rfl, hfirst, hsecond⟩ := ih _ rest
        exact ⟨a, u, _ :: first, second, rfl, .ask hfirst, hsecond⟩
    | together lanes next ih =>
      cases h with
      | together moved rest =>
        obtain ⟨a, u, first, second, rfl, hfirst, hsecond⟩ := ih _ rest
        exact ⟨a, u, _, second, (List.append_assoc _ _ _).symm, .together moved hfirst, hsecond⟩
  · rintro ⟨a, u, first, second, rfl, h, hf⟩
    exact h.andThen hf

/-- A dialogue has one run. -/
theorem runs_ofDialogue_iff {d : Dialogue I α} : Runs answer (ofDialogue d) s talk a t ↔
    talk = Dialogue.exchanges answer d s ∧ (Dialogue.run answer d s).value = a ∧
      (Dialogue.run answer d s).state = t := by
  induction d generalizing s talk with
  | done b => exact runs_done
  | ask c next ih =>
    constructor
    · intro h
      cases h with
      | ask rest =>
        obtain ⟨rfl, value, state⟩ := (ih _).mp rest
        exact ⟨rfl, value, state⟩
    · rintro ⟨rfl, value, state⟩
      exact .ask ((ih _).mpr ⟨rfl, value, state⟩)

theorem runs_ofDialogue (answer : Answering I σ) (d : Dialogue I α) (s : σ) :
    Runs answer (ofDialogue d) s (Dialogue.exchanges answer d s) (Dialogue.run answer d s).value
      (Dialogue.run answer d s).state :=
  runs_ofDialogue_iff.mpr ⟨rfl, rfl, rfl⟩

/-! ## Procedures with one thing under way -/

/-- A procedure that never has several things under way. -/
inductive Serial {α : Type} : Procedure I α → Prop
  | done (a : α) : Serial (.done a)
  | ask {c : I.Call} {next : I.Reply c → Procedure I α} (later : ∀ reply, Serial (next reply)) :
      Serial (.ask c next)

theorem Serial.andThen (h : Serial p) (hf : ∀ a, Serial (f a)) : Serial (p.andThen f) := by
  induction h with
  | done a => exact hf a
  | ask _ ih => exact .ask ih

/-- Where only one thing is under way at a time, there is no other run than in turn. -/
theorem Serial.run_inTurn (h : Serial p) (run : Runs answer p s talk a t) :
    Dialogue.run answer p.inTurn s = ⟨a, t, talk.map (·.1)⟩ := by
  induction run with
  | done a s => rfl
  | @ask c next s t talk a _ ih =>
    cases h with
    | ask later =>
      rw [inTurn, along, Dialogue.run_ask, ← inTurn, ih (later _)]
      rfl
  | together => cases h

/-! ## Calls -/

/-- Every call that a procedure can make, whatever the replies are, meets a condition. -/
inductive Calls (holds : I.Call → Prop) {α : Type} : Procedure I α → Prop
  | done (a : α) : Calls holds (.done a)
  | ask {c : I.Call} {next : I.Reply c → Procedure I α} (here : holds c)
      (later : ∀ reply, Calls holds (next reply)) : Calls holds (.ask c next)
  | together {β : Type} {lanes : List (Dialogue I β)} {next : List β → Procedure I α}
      (here : ∀ d ∈ lanes, d.Calls holds) (later : ∀ values, Calls holds (next values)) :
      Calls holds (.together lanes next)

namespace Calls

variable {holds : I.Call → Prop}

theorem ofDialogue {d : Dialogue I α} (h : d.Calls holds) : Calls holds (ofDialogue d) := by
  induction h with
  | done a => exact .done a
  | ask here _ ih => exact .ask here ih

theorem andThen (h : Calls holds p) (hf : ∀ a, Calls holds (f a)) : Calls holds (p.andThen f) := by
  induction h with
  | done a => exact hf a
  | ask here _ ih => exact .ask here ih
  | together here _ ih => exact .together here ih

/-- The calls that a procedure has made are among those it can make. -/
theorem of_goes (h : Calls holds p) (goes : Goes p talk a) : ∀ e ∈ talk, holds e.1 := by
  induction goes with
  | done a => simp
  | ask _ ih =>
    cases h with
    | ask here later => exact List.forall_mem_cons.mpr ⟨here, ih (later _)⟩
  | @together _ lanes next here values talk a abreast _ ih =>
    cases h with
    | together ours later =>
      refine List.forall_mem_append.mpr ⟨List.forall_mem_map.mpr fun e he => ?_, ih (later _)⟩
      have lane := List.getElem?_eq_getElem (abreast.lt_length e he)
      obtain ⟨v, -, own⟩ := abreast.goes lane
      exact (ours _ (List.mem_of_getElem? lane)).of_goes own e.2 (Dialogue.mem_partOf.mpr he)

end Calls

end Procedure
end Armory
