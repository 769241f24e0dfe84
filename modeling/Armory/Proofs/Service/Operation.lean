import Armory.Proofs.Dialogue.Together
import Armory.Service
import Mathlib.Data.Set.List

/-! The ways in which an operation can end. Each way has its exchanges and its result, and those of a composed
operation are made up of those of its parts (`Operation.ends_bind`), so a question about all partners of an
operation becomes one about its parts. -/
namespace Armory

open Dialogue (Exchange)

namespace Operation

variable {α β : Type} {x : Operation α} {f : α → Operation β} {a : α} {e : ServiceError}
  {talk : List (Exchange Service)} {r : Except ServiceError α}

/-- An operation makes some exchanges, in order, and ends with a result. -/
def Ends (x : Operation α) (talk : List (Exchange Service)) (r : Except ServiceError α) : Prop :=
  x.procedure.Goes talk r

/-- One thing after the other is one of the ways in which an operation can end. -/
theorem ends_of_goes_run (h : x.run.Goes talk r) : x.Ends talk r := Procedure.goes_of_inTurn h

/-- A run of an operation is one of the ways in which it can end. -/
theorem ends_run {σ : Type} (answer : Dialogue.Answering Service σ) (x : Operation α) (s : σ) :
    x.Ends (Dialogue.exchanges answer x.run s) (Dialogue.run answer x.run s).value :=
  ends_of_goes_run (Dialogue.goes_exchanges answer x.run s)

/-- What an operation does one thing after the other is one of its runs. -/
theorem runs_run {σ : Type} (answer : Dialogue.Answering Service σ) (x : Operation α) (s : σ) :
    x.procedure.Runs answer s (Dialogue.exchanges answer x.run s) (Dialogue.run answer x.run s).value
      (Dialogue.run answer x.run s).state :=
  Procedure.runs_inTurn answer x.procedure s

theorem ends_pure : (pure a : Operation α).Ends talk r ↔ talk = [] ∧ .ok a = r := Procedure.goes_done

theorem ends_throw : (throw e : Operation α).Ends talk r ↔ talk = [] ∧ .error e = r :=
  Procedure.goes_done

/-- **One operation after the other**: either the first fails, or both take their turns. -/
theorem ends_bind {r : Except ServiceError β} :
    (x >>= f).Ends talk r ↔ (∃ e, x.Ends talk (.error e) ∧ .error e = r) ∨
      ∃ a first second, talk = first ++ second ∧ x.Ends first (.ok a) ∧ (f a).Ends second r := by
  refine Procedure.goes_andThen.trans ⟨?_, ?_⟩
  · rintro ⟨r', first, second, rfl, hx, h⟩
    cases r' with
    | error e =>
      obtain ⟨rfl, same⟩ := Procedure.goes_done.mp h
      rw [List.append_nil]
      exact .inl ⟨e, hx, same⟩
    | ok a => exact .inr ⟨a, first, second, rfl, hx, h⟩
  · rintro (⟨e, hx, same⟩ | ⟨a, first, second, rfl, hx, h⟩)
    · exact ⟨.error e, talk, [], (List.append_nil talk).symm, hx, Procedure.goes_done.mpr ⟨rfl, same⟩⟩
    · exact ⟨.ok a, first, second, rfl, hx, h⟩

/-- A run of one operation after the other: either the first fails, or the second goes on from where it ended. -/
theorem runs_bind {σ : Type} {answer : Dialogue.Answering Service σ} {s t : σ} {r : Except ServiceError β} :
    (x >>= f).procedure.Runs answer s talk r t ↔
      (∃ e, x.procedure.Runs answer s talk (.error e) t ∧ .error e = r) ∨
      ∃ a u first second, talk = first ++ second ∧ x.procedure.Runs answer s first (.ok a) u ∧
        (f a).procedure.Runs answer u second r t := by
  refine Procedure.runs_andThen.trans ⟨?_, ?_⟩
  · rintro ⟨r', u, first, second, rfl, hx, h⟩
    cases r' with
    | error e =>
      obtain ⟨rfl, same, rfl⟩ := Procedure.runs_done.mp h
      rw [List.append_nil]
      exact .inl ⟨e, hx, same⟩
    | ok a => exact .inr ⟨a, u, first, second, rfl, hx, h⟩
  · rintro (⟨e, hx, same⟩ | ⟨a, u, first, second, rfl, hx, h⟩)
    · exact ⟨.error e, t, talk, [], (List.append_nil talk).symm, hx, Procedure.runs_done.mpr ⟨rfl, same, rfl⟩⟩
    · exact ⟨.ok a, u, first, second, rfl, hx, h⟩

/-- One operation after the other, if nothing is begun before what was begun earlier is done. -/
theorem run_bind (x : Operation α) (f : α → Operation β) :
    (x >>= f).run = x.run.andThen fun
      | .ok a => (f a).run
      | .error e => .done (.error e) := by
  refine (Procedure.along_andThen x.procedure _).trans (congrArg _ (funext fun r => ?_))
  cases r <;> rfl

end Operation

namespace Service

variable {α β : Type} {talk : List (Exchange Service)}

/-- Whether a call changes what characters hold or wear. -/
def Call.changes : Service.Call → Bool
  | .game c => c.changes
  | .store _ => false

/-- What follows an operation that exchanges one reply and comes to it: the operation that goes on with the value, or
nothing after an error. -/
theorem ends_bind_of_replies {ε : Type} {x : Operation α} {f : α → Operation β} {failed : ε → ServiceError}
    {step : Except ε α → Exchange Service} {r : Except ServiceError β}
    (hx : ∀ {talk : List (Exchange Service)} {r : Except ServiceError α}, x.Ends talk r ↔
      ∃ reply : Except ε α, talk = [step reply] ∧ reply.mapError failed = r) :
    (x >>= f).Ends talk r ↔ (∃ e : ε, talk = [step (.error e)] ∧ .error (failed e) = r) ∨
      ∃ (a : α) (rest : _), talk = step (.ok a) :: rest ∧ (f a).Ends rest r := by
  rw [Operation.ends_bind]
  constructor
  · rintro (⟨e, asked, rfl⟩ | ⟨a, first, rest, rfl, asked, h⟩)
    · obtain ⟨reply | a, rfl, same⟩ := hx.mp asked
      · cases same
        exact .inl ⟨reply, rfl, rfl⟩
      · cases same
    · obtain ⟨reply | a, rfl, same⟩ := hx.mp asked
      · cases same
      · cases same
        exact .inr ⟨a, rest, rfl, h⟩
  · rintro (⟨e, rfl, rfl⟩ | ⟨a, rest, rfl, h⟩)
    · exact .inl ⟨_, hx.mpr ⟨.error e, rfl, rfl⟩, rfl⟩
    · exact .inr ⟨a, [_], rest, rfl, hx.mpr ⟨.ok a, rfl, rfl⟩, h⟩

theorem askGame_procedure (c : Game.Call) (failed : String → ServiceError) :
    (askGame c failed).procedure = .ask (.game c) fun reply : Except GameError c.Success =>
      .done (reply.mapError fun e => failed e.message) := by
  refine congrArg (Procedure.ask (I := Service) (.game c)) (funext fun reply => ?_)
  cases reply <;> rfl

theorem askStore_procedure (c : Store.Call) :
    (askStore c).procedure = .ask (.store c) fun reply : Except StoreError c.Success =>
      .done (reply.mapError fun e => .persistence e.message) := by
  refine congrArg (Procedure.ask (I := Service) (.store c)) (funext fun reply => ?_)
  cases reply <;> rfl

theorem askGame_run (c : Game.Call) (failed : String → ServiceError) :
    (askGame c failed).run = .ask (.game c) fun reply : Except GameError c.Success =>
      .done (reply.mapError fun e => failed e.message) := by
  rw [Operation.run, askGame_procedure]
  rfl

theorem askStore_run (c : Store.Call) :
    (askStore c).run = .ask (.store c) fun reply : Except StoreError c.Success =>
      .done (reply.mapError fun e => .persistence e.message) := by
  rw [Operation.run, askStore_procedure]
  rfl

theorem ends_askGame {c : Game.Call} {failed : String → ServiceError}
    {r : Except ServiceError c.Success} :
    (askGame c failed).Ends talk r ↔ ∃ reply : Except GameError c.Success,
      talk = [⟨.game c, reply⟩] ∧ reply.mapError (fun e => failed e.message) = r := by
  rw [Operation.Ends, askGame_procedure]
  exact Procedure.goes_ask_done

/-- A call to the game and what follows it. -/
theorem ends_askGame_bind {c : Game.Call} {failed : String → ServiceError}
    {f : c.Success → Operation β} {r : Except ServiceError β} :
    (askGame c failed >>= f).Ends talk r ↔
      (∃ e : GameError, talk = [⟨.game c, .error e⟩] ∧ .error (failed e.message) = r) ∨
        ∃ (a : c.Success) (rest : _), talk = ⟨.game c, .ok a⟩ :: rest ∧ (f a).Ends rest r :=
  ends_bind_of_replies ends_askGame

theorem ends_askStore {c : Store.Call} {r : Except ServiceError c.Success} :
    (askStore c).Ends talk r ↔ ∃ reply : Except StoreError c.Success,
      talk = [⟨.store c, reply⟩] ∧ reply.mapError (fun e => .persistence e.message) = r := by
  rw [Operation.Ends, askStore_procedure]
  exact Procedure.goes_ask_done

/-- A call to storage and what follows it. -/
theorem ends_askStore_bind {c : Store.Call} {f : c.Success → Operation β} {r : Except ServiceError β} :
    (askStore c >>= f).Ends talk r ↔
      (∃ e : StoreError, talk = [⟨.store c, .error e⟩] ∧ .error (.persistence e.message) = r) ∨
        ∃ (a : c.Success) (rest : _), talk = ⟨.store c, .ok a⟩ :: rest ∧ (f a).Ends rest r :=
  ends_bind_of_replies ends_askStore

theorem ends_recordUnknown {kind : Store.NameKind} {value : String} {r : Except ServiceError Unit} :
    (recordUnknown kind value).Ends talk r ↔
      ∃ reply, talk = [⟨.store (.record kind value), reply⟩] ∧ .ok () = r :=
  Procedure.goes_ask_done

/-- An exchange with the game, as one of the service. -/
def ofGame (e : Exchange Game) : Exchange Service := ⟨.game e.1, e.2⟩

theorem ofGame_injective : Function.Injective ofGame := by
  rintro ⟨c, reply⟩ ⟨c', reply'⟩ same
  cases same
  rfl

/-- What a dialogue with the game exchanges as part of an operation is what it exchanges with the game. -/
theorem goes_through_toGame {d : Dialogue Game α} {a : α} (h : (d.through toGame).Goes talk a) :
    ∃ games, talk = games.map ofGame ∧ d.Goes games a := by
  induction d generalizing talk with
  | done b =>
    obtain ⟨rfl, rfl⟩ := Dialogue.goes_done.mp h
    exact ⟨[], rfl, .done b⟩
  | ask c next ih =>
    obtain ⟨reply, rest, rfl, later⟩ := Dialogue.goes_ask.mp h
    obtain ⟨games, rfl, goes⟩ := ih reply later
    exact ⟨⟨c, reply⟩ :: games, rfl, goes.ask⟩

/-- So it is for dialogues that are under way at the same time. -/
theorem abreast_through_toGame {lanes : List (Dialogue Game β)} {here : List (Nat × Exchange Service)}
    {values : List β} (h : Dialogue.Abreast (lanes.map (·.through toGame)) here values) :
    ∃ games, here = games.map (fun e => (e.1, ofGame e.2)) ∧ Dialogue.Abreast lanes games values := by
  have own : ∀ {k : Nat} {d : Dialogue Game β}, lanes[k]? = some d →
      ∃ v, values[k]? = some v ∧ (d.through toGame).Goes (Dialogue.partOf k here) v :=
    fun hk => h.goes (by rw [List.getElem?_map, hk]; rfl)
  have bound : ∀ e ∈ here, e.1 < lanes.length := fun e he => by simpa using h.lt_length e he
  have fromGame : ∀ e ∈ here, e ∈ Set.range fun e : Nat × Exchange Game => (e.1, ofGame e.2) := by
    intro e he
    obtain ⟨v, -, goes⟩ := own (List.getElem?_eq_getElem (bound e he))
    obtain ⟨games, part, -⟩ := goes_through_toGame goes
    have mem := Dialogue.mem_partOf.mpr he
    rw [part] at mem
    obtain ⟨g, -, same⟩ := List.mem_map.mp mem
    exact ⟨(e.1, g), Prod.ext rfl same⟩
  obtain ⟨games, rfl⟩ : here ∈ Set.range (List.map fun e : Nat × Exchange Game => (e.1, ofGame e.2)) := by
    rw [Set.range_list_map]
    exact fromGame
  refine ⟨games, rfl, ⟨by simpa using h.length_eq, fun {k d} hk => ?_, fun e he => ?_⟩⟩
  · obtain ⟨v, hv, goes⟩ := own hk
    obtain ⟨part, same, goes⟩ := goes_through_toGame goes
    have mapped : Dialogue.partOf k (games.map fun e => (e.1, ofGame e.2)) =
        (Dialogue.partOf k games).map ofGame := by
      simp [Dialogue.partOf, List.filter_map, Function.comp_def]
    rw [mapped] at same
    exact ⟨v, hv, ofGame_injective.list_map same ▸ goes⟩
  · exact bound _ (List.mem_map_of_mem he)

/-- **What a procedure with the game exchanges** as part of an operation is what it exchanges with the game. -/
theorem goes_withGame {p : Procedure Game α} {a : α} (h : (withGame p).Goes talk a) :
    ∃ games, talk = games.map ofGame ∧ p.Goes games a := by
  induction p generalizing talk with
  | done b =>
    obtain ⟨rfl, rfl⟩ := Procedure.goes_done.mp h
    exact ⟨[], rfl, .done b⟩
  | ask c next ih =>
    obtain ⟨reply, rest, rfl, later⟩ := Procedure.goes_ask.mp h
    obtain ⟨games, rfl, goes⟩ := ih reply later
    exact ⟨⟨c, reply⟩ :: games, rfl, .ask goes⟩
  | together lanes next ih =>
    obtain ⟨here, values, rest, rfl, abreast, later⟩ := Procedure.goes_together.mp h
    obtain ⟨first, rfl, own⟩ := abreast_through_toGame abreast
    obtain ⟨games, rfl, goes⟩ := ih values later
    exact ⟨first.map (·.2) ++ games, by simp [Function.comp_def], .together own goes⟩

theorem ends_attempt {p : Procedure Service α} {r : Except ServiceError α} :
    (attempt p).Ends talk r ↔ ∃ a, p.Goes talk a ∧ .ok a = r := by
  refine Procedure.goes_andThen.trans ⟨?_, ?_⟩
  · rintro ⟨a, first, second, rfl, h, last⟩
    obtain ⟨rfl, rfl⟩ := Procedure.goes_done.mp last
    exact ⟨a, by rwa [List.append_nil], rfl⟩
  · rintro ⟨a, h, rfl⟩
    exact ⟨a, talk, [], (List.append_nil talk).symm, h, .done _⟩

theorem ends_require {q : Except DomainError α} {r : Except ServiceError α} :
    (require q).Ends talk r ↔ talk = [] ∧ q.mapError .domain = r := by
  cases q with
  | ok a => exact Operation.ends_pure
  | error e => exact Operation.ends_throw

/-- A procedure that is part of an operation and can itself come to nothing. -/
theorem ends_attempt_require {p : Procedure Service (Except DomainError α)} {f : α → β}
    {r : Except ServiceError β}
    (h : (attempt p >>= fun q => require q >>= fun a => pure (f a)).Ends talk r) :
    ∃ q, p.Goes talk q ∧ (q.map f).mapError .domain = r := by
  rcases Operation.ends_bind.mp h with ⟨e, hd, -⟩ | ⟨q, first, rest, rfl, hd, hlast⟩
  · obtain ⟨q, -, same⟩ := ends_attempt.mp hd
    cases same
  · obtain ⟨q', goes, same⟩ := ends_attempt.mp hd
    cases same
    refine ⟨q, ?_⟩
    cases q with
    | error e =>
      obtain ⟨rfl, same⟩ := Procedure.goes_done.mp hlast
      exact ⟨by rwa [List.append_nil], same⟩
    | ok a =>
      obtain ⟨rfl, same⟩ := Procedure.goes_done.mp hlast
      exact ⟨by rwa [List.append_nil], same⟩

theorem ends_currentCharacter {p : Profile} {r : Except ServiceError Character} :
    (currentCharacter p).Ends talk r ↔ talk = [] ∧
      (match p.current? with
        | some ch => .ok ch
        | none => .error (.domain (.characterNotFound "current"))) = r := by
  unfold currentCharacter
  cases p.current? with
  | some ch => exact Operation.ends_pure
  | none => exact Operation.ends_throw

/-- A profile is loaded with two calls, and if that fails nothing but questions has been asked. -/
theorem ends_load {c : Catalog} {detailedOnly : Bool} {r : Except ServiceError (Account × Profile)}
    (h : (load c detailedOnly).Ends talk r) :
    ((∀ e ∈ talk, Call.changes e.1 = false) ∧ ∃ e, r = .error e) ∨
      ∃ (a : Account) (s : Snapshot),
        talk = [⟨.game .currentAccount, .ok a⟩, ⟨.game (.loadProfile a.membership), .ok s⟩] ∧
          r = .ok (a, .assemble s c detailedOnly) := by
  rcases ends_askGame_bind.mp h with ⟨e, rfl, rfl⟩ | ⟨a, rest, rfl, hprofile⟩
  · exact .inl ⟨by simp [Call.changes, Game.Call.changes], _, rfl⟩
  rcases ends_askGame_bind.mp hprofile with ⟨e, rfl, rfl⟩ | ⟨s, rest, rfl, hlast⟩
  · exact .inl ⟨by simp [Call.changes, Game.Call.changes], _, rfl⟩
  obtain ⟨rfl, rfl⟩ := Operation.ends_pure.mp hlast
  exact .inr ⟨a, s, rfl, rfl⟩

end Service
end Armory
