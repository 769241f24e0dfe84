import Armory.Proofs.Service.Operation
import Armory.Store.Shelf

/-! An operation and what answers it: a game, and storage of either kind. What a composed operation does is what its
parts do one after the other (`Operation.Ran.bind`, `Operation.ran_bind_ok`), a call to storage does there what
storage says (`Service.ran_askStore`), and an operation that never has several calls under way has one run
(`Operation.Serial.ran`). -/
namespace Armory

open Store (Shelf)

namespace Operation

variable {α β σ : Type} {answer : Dialogue.Answering Service σ} {x : Operation α} {f : α → Operation β}
  {s t u : σ} {calls first second : List Service.Call} {a : α}

/-- From a state, an operation ends with a result and in another state, and has made some calls. -/
def Ran (answer : Dialogue.Answering Service σ) (x : Operation α) (s : σ) (r : Except ServiceError α)
    (t : σ) (calls : List Service.Call) : Prop :=
  Dialogue.run answer x.run s = ⟨r, t, calls⟩

theorem value_eq_iff {r : Except ServiceError α} :
    (Dialogue.run answer x.run s).value = r ↔ ∃ t calls, Ran answer x s r t calls := by
  constructor
  · rintro rfl
    exact ⟨_, _, rfl⟩
  · rintro ⟨t, calls, h⟩
    rw [h]

theorem ran_pure : Ran answer (pure a) s (.ok a) s [] := rfl

theorem ran_throw {e : ServiceError} : Ran answer (throw e : Operation α) s (.error e) s [] := rfl

theorem Ran.unique {r r' : Except ServiceError α} (h : Ran answer x s r t calls)
    {calls' : List Service.Call} (h' : Ran answer x s r' u calls') : r = r' ∧ t = u ∧ calls = calls' := by
  have same := h.symm.trans h'
  rw [Dialogue.Run.mk.injEq] at same
  exact same

/-- Where the first operation brings a value, the second one goes on with it. -/
theorem Ran.bind {r : Except ServiceError β} (hx : Ran answer x s (.ok a) u first)
    (hf : Ran answer (f a) u r t second) : Ran answer (x >>= f) s r t (first ++ second) := by
  unfold Ran at hx hf ⊢
  rw [run_bind, Dialogue.run_andThen, hx]
  simp only [hf]

/-- Where both bring a value, the second one has gone on with that of the first. -/
theorem ran_bind_ok {b : β} (h : Ran answer (x >>= f) s (.ok b) t calls) :
    ∃ a u first second, Ran answer x s (.ok a) u first ∧ Ran answer (f a) u (.ok b) t second ∧
      calls = first ++ second := by
  rw [Ran, run_bind, Dialogue.run_andThen] at h
  cases hx : Dialogue.run answer x.run s with
  | mk r u first =>
    rw [hx] at h
    cases r with
    | error e => cases h
    | ok a =>
      rw [Dialogue.Run.mk.injEq] at h
      obtain ⟨value, state, rfl⟩ := h
      refine ⟨a, u, first, _, hx, ?_, rfl⟩
      rw [← value, ← state]
      rfl

/-! ### One thing at a time -/

/-- The operation never has several calls under way. -/
def Serial (x : Operation α) : Prop := x.procedure.Serial

theorem Serial.bind (h : Serial x) (hf : ∀ a, Serial (f a)) : Serial (x >>= f) := by
  refine Procedure.Serial.andThen h fun r => ?_
  cases r with
  | error e => exact .done _
  | ok a => exact hf a

theorem serial_pure (a : α) : Serial (pure a) := .done _

/-- Such an operation has one run. -/
theorem Serial.ran {r : Except ServiceError α} {talk : List (Dialogue.Exchange Service)} (h : Serial x)
    (run : x.procedure.Runs answer s talk r t) : Ran answer x s r t (talk.map (·.1)) :=
  Procedure.Serial.run_inTurn h run

end Operation

namespace Service

open Operation (Ran)

variable {α γ σ : Type} {game : Dialogue.Answering Game γ} {a : Account} {s : Snapshot}
  {w t : γ × Shelf} {calls : List Service.Call}

/-- A character that was found is the first one of the profile. -/
theorem ran_currentCharacter_ok {answer : Dialogue.Answering Service σ} {p : Profile} {ch : Character}
    {s t : σ} (h : Ran answer (currentCharacter p) s (.ok ch) t calls) :
    p.current? = some ch ∧ t = s ∧ calls = [] := by
  unfold currentCharacter at h
  split at h
  · obtain ⟨same, rfl, rfl⟩ := h.unique Operation.ran_pure
    cases same
    exact ⟨‹_›, rfl, rfl⟩
  · obtain ⟨same, -⟩ := h.unique Operation.ran_throw
    cases same

theorem serial_askGame (call : Game.Call) (failed : String → ServiceError) :
    (askGame call failed).Serial := by
  rw [Operation.Serial, askGame_procedure]
  exact .ask fun _ => .done _

theorem serial_askStore (call : Store.Call) : (askStore call).Serial := by
  rw [Operation.Serial, askStore_procedure]
  exact .ask fun _ => .done _

theorem serial_load (c : Catalog) (detailedOnly : Bool) : (load c detailedOnly).Serial :=
  (serial_askGame _ _).bind fun _ => (serial_askGame _ _).bind fun _ => Operation.serial_pure _

/-- A game and storage, each answering for itself. -/
def partners (game : Dialogue.Answering Game γ) : Dialogue.Answering Service (γ × Shelf)
  | .game c, w => ((game c w.1).1, ((game c w.1).2, w.2))
  | .store c, w => ((w.2.answer c).1, (w.1, (w.2.answer c).2))

/-- What a call to storage brings, and what it leaves there. -/
theorem ran_askStore (game : Dialogue.Answering Game γ) (call : Store.Call) (w : γ × Shelf) :
    Ran (partners game) (askStore call) w
      ((w.2.answer call).1.mapError fun e => .persistence e.message) (w.1, (w.2.answer call).2)
      [.store call] := by
  rw [Ran, askStore_run]
  rfl

/-- A call to storage that brings a value is one that storage gives this value. -/
theorem ran_askStore_ok {call : Store.Call} {v : call.Success}
    (h : Ran (partners game) (askStore call) w (.ok v) t calls) :
    (w.2.answer call).1 = .ok v ∧ t = (w.1, (w.2.answer call).2) ∧ calls = [.store call] := by
  obtain ⟨value, state, made⟩ := (ran_askStore game call w).unique h
  refine ⟨?_, state.symm, made.symm⟩
  cases reply : (w.2.answer call).1 with
  | error e =>
    rw [reply] at value
    cases value
  | ok v' =>
    rw [reply] at value
    cases value
    rfl

theorem ran_askGame (game : Dialogue.Answering Game γ) (call : Game.Call)
    (failed : String → ServiceError) (w : γ × Shelf) :
    Ran (partners game) (askGame call failed) w
      ((game call w.1).1.mapError fun e => failed e.message) ((game call w.1).2, w.2) [.game call] := by
  rw [Ran, askGame_run]
  rfl

/-- A game that always gives the same account, and the same profile for it. -/
structure Reports (game : Dialogue.Answering Game γ) (a : Account) (s : Snapshot) : Prop where
  account : ∀ g, (game .currentAccount g).1 = .ok a
  profile : ∀ g, (game (.loadProfile a.membership) g).1 = .ok s

namespace Reports

variable (reports : Reports game a s)
include reports

theorem ran_account (w : γ × Shelf) : ∃ g,
    Ran (partners game) Service.account w (.ok a) (g, w.2) [.game .currentAccount] := by
  have asked := ran_askGame game .currentAccount .accountResolution w
  rw [reports.account] at asked
  exact ⟨_, asked⟩

theorem ran_load (c : Catalog) (detailedOnly : Bool) (w : γ × Shelf) : ∃ g,
    Ran (partners game) (load c detailedOnly) w (.ok (a, .assemble s c detailedOnly)) (g, w.2)
      [.game .currentAccount, .game (.loadProfile a.membership)] := by
  obtain ⟨g, known⟩ := reports.ran_account w
  have asked := ran_askGame game (.loadProfile a.membership) .profileFetch (g, w.2)
  rw [reports.profile] at asked
  exact ⟨_, known.bind (asked.bind Operation.ran_pure)⟩

/-- Loading the profile brings what the game reports, and changes nothing. -/
theorem runs_load {c : Catalog} {detailedOnly : Bool} {talk : List (Dialogue.Exchange Service)}
    {r : Except ServiceError (Account × Profile)}
    (h : (load c detailedOnly).procedure.Runs (partners game) w talk r t) :
    .ok (a, .assemble s c detailedOnly) = r ∧ t.2 = w.2 ∧ ∀ e ∈ talk, Call.changes e.1 = false := by
  obtain ⟨g, known⟩ := reports.ran_load c detailedOnly w
  obtain ⟨value, rfl, calls⟩ := known.unique ((serial_load c detailedOnly).ran h)
  have quiet : ∀ call ∈ talk.map (·.1), Call.changes call = false := by
    rw [← calls]
    simp [Call.changes, Game.Call.changes]
  exact ⟨value, rfl, List.forall_mem_map.mp quiet⟩

end Reports

end Service
end Armory
