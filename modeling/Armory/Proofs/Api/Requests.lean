import Armory.Api
import Armory.Proofs.Service.Failure

/-!
# What a request over hypertext asks for

A request that leads to a route of the service, has one of its methods and a name that can be read passes two gates:
its token and its body. Three lemmas say how `Context.handle` takes a request that stops at the first gate, at the
second, or at neither; the last one is answered by an operation of the service (`asked?`), whose result it is told.
`Context.Serves` is what a request can be answered with and what can happen meanwhile, and `Context.serve` is what
comes of it if nothing is begun before what was begun earlier is done.
-/

namespace Armory.Api

/-! ## The operation of a request -/

/-- The result of an operation as the body of a response. -/
def resultJson : (q : Service.Request) → q.Answer → Json
  | .countItem _ => Outcome.toJson (·.toJson)
  | .transferItem _ => Outcome.toJson (·.toJson)
  | .equipStrongest => (·.toJson)
  | .equipDrawn _ _ => (·.toJson)
  | .unloadEngrams => Outcome.toJson (·.toJson)
  | .loadoutExists name => fun found => .record [("name", .text name), ("exists", .bool found)]
  | .saveLoadout _ _ => (·.toJson)
  | .equipNamed _ => Outcome.toJson (·.toJson)
  | .loadoutNames => fun names => .record [("names", Json.list .text names)]
  | .crucibleRanks => Outcome.toJson (·.toJson)
  | .gambitRank => Outcome.toJson (·.toJson)

/-- What a request asks of the service, by its route, the name in it and its body; none if the body is not what it
should be. -/
def asked? (lots : Lots) (r : Http.Request) (name : String) : Route → Option Service.Request
  | .health => none
  | .loadouts =>
    if r.method = "POST" then (body? saveBody? r).map fun b => .saveLoadout b.1 b.2 else some .loadoutNames
  | .strongest => some .equipStrongest
  | .drawn => (bodyOr? false drawnBody? r).map fun includeArmor => .equipDrawn includeArmor lots
  | .loadout _ => some (.loadoutExists name)
  | .equip _ => some (.equipNamed name)
  | .count _ => some (.countItem name)
  | .transfer => (body? transferBody? r).map .transferItem
  | .engrams => some .unloadEngrams
  | .crucible => some .crucibleRanks
  | .gambit => some .gambitRank

theorem Context.operation?_eq (x : Context) (r : Http.Request) (name : String) (route : Route) :
    x.operation? r name route = (asked? x.lots r name route).map fun q =>
      conclude x.correlationId (resultJson q) (q.operation x.catalog) := by
  cases route
  case loadouts =>
    simp only [operation?, asked?]
    split
    · rw [Option.map_map]
      rfl
    · rfl
  case drawn =>
    simp only [operation?, asked?, Option.map_map]
    rfl
  case transfer =>
    simp only [operation?, asked?, Option.map_map]
    rfl
  all_goals rfl

/-! ## Answers -/

/-- A response as the method of the request has it. -/
def shownTo (r : Http.Request) (response : Http.Response) : Http.Response :=
  if r.method = "HEAD" then response.head else response

@[simp] theorem status_shownTo (r : Http.Request) (response : Http.Response) :
    (shownTo r response).status = response.status := by
  unfold shownTo
  split <;> rfl

/-- An operation is answered with success if it ends well. -/
theorem status_respond_eq_ok_iff {α : Type} {correlationId : String} {f : α → Json} {r : Except ServiceError α} :
    (respond correlationId f r).status = 200 ↔ ∃ a, r = .ok a := by
  cases r with
  | ok a => simp [respond]
  | error e => cases h : (Refusal.classify e).1 <;> simp [respond, refuse, Refusal.ofError, statusOf, h]

/-- A request leads to a route of the service, has one of its methods, and a name that can be read. -/
structure Reaches (r : Http.Request) (route : Route) (name : String) : Prop where
  found : Route.ofTarget? r.target = some route
  own : route ≠ .health
  method : r.method ∈ route.methods
  named : Net.Percent.decode? (route.name?.getD []) = some name

/-! ## What a request is handled with -/

namespace Context

variable {x : Context} {r : Http.Request} {route : Route} {name token : String}

/-- A route of the service is there whether health is reported or not. -/
theorem filter_ofTarget? (found : Route.ofTarget? r.target = some route) (own : route ≠ .health) :
    (Route.ofTarget? r.target).filter (fun route => route != .health || x.health.isSome) = some route := by
  simp [found, Option.filter, own]

theorem handle_of_other_method (found : Route.ofTarget? r.target = some route) (own : route ≠ .health)
    (other : r.method ∉ route.methods) : x.handle r = .answer .methodNotAllowed := by
  have refused : route.methods.contains r.method = false := by
    simpa using other
  simp only [handle, filter_ofTarget? found own, refused]
  rfl

/-- A request that leads to a route is handled as the route has it. -/
theorem handle_of_reaches (reaches : Reaches r route name) :
    x.handle r = if r.method = "HEAD" then headOf (x.handleRoute r route) else x.handleRoute r route := by
  have allowed : route.methods.contains r.method := List.contains_iff_mem.2 reaches.method
  simp only [handle, filter_ofTarget? reaches.found reaches.own, allowed, Bool.not_true, Bool.false_eq_true,
    if_false]

theorem handleRoute_of_reaches (reaches : Reaches r route name) :
    x.handleRoute r route = match token? r with
      | none => .answer x.unauthorized
      | some token => match x.operation? r name route with
        | none => .answer (x.badBody r)
        | some operation => .ask token operation := by
  simp only [handleRoute, reaches.named]
  split
  · exact absurd rfl reaches.own
  · rfl

/-- Without a token nobody is asked anything. -/
theorem handle_of_no_token (reaches : Reaches r route name) (anonymous : token? r = none) :
    x.handle r = .answer (shownTo r x.unauthorized) := by
  rw [handle_of_reaches reaches, handleRoute_of_reaches reaches, anonymous, shownTo]
  split <;> rfl

/-- With a body that is not what it should be, nobody is asked anything. -/
theorem handle_of_rejected (reaches : Reaches r route name) (bearer : token? r = some token)
    (rejected : asked? x.lots r name route = none) : x.handle r = .answer (shownTo r (x.badBody r)) := by
  rw [handle_of_reaches reaches, handleRoute_of_reaches reaches, bearer, operation?_eq, rejected, shownTo]
  split <;> rfl

/-- Any other request is told the result of its operation. -/
theorem handle_of_asked (reaches : Reaches r route name) (bearer : token? r = some token) {q : Service.Request}
    (accepted : asked? x.lots r name route = some q) :
    x.handle r = .ask token ((q.operation x.catalog).procedure.andThen fun result =>
      .done (shownTo r (respond x.correlationId (resultJson q) result))) := by
  rw [handle_of_reaches reaches, handleRoute_of_reaches reaches, bearer, operation?_eq, accepted]
  unfold shownTo
  split
  · exact congrArg (Handling.ask token) (Procedure.andThen_assoc _ _ _)
  · rfl

end Context

/-! ## What a request is answered with -/

variable {σ : Type} {answer : String → Dialogue.Answering Service σ} {s t : σ}

/-- A handling carried out one thing after the other: the response, the state of those that answer the bearer of a
token, and the calls to them. -/
def Handling.run (answer : String → Dialogue.Answering Service σ) (s : σ) :
    Handling → Dialogue.Run Service Http.Response σ
  | .answer response => ⟨response, s, []⟩
  | .ask token operation => Dialogue.run (answer token) operation.inTurn s

/-- A handling carried out: there are exchanges with those that answer the bearer of a token, which leave them in a
state, and a response. -/
def Handling.Runs (answer : String → Dialogue.Answering Service σ) (s : σ) :
    Handling → List (Dialogue.Exchange Service) → Http.Response → σ → Prop
  | .answer response, talk, told, t => talk = [] ∧ response = told ∧ s = t
  | .ask token operation, talk, told, t => operation.Runs (answer token) s talk told t

namespace Context

/-- A request served one thing after the other. -/
def serve (x : Context) (answer : String → Dialogue.Answering Service σ) (r : Http.Request) (s : σ) :
    Dialogue.Run Service Http.Response σ :=
  (x.handle r).run answer s

/-- A request is served with some exchanges and a response, in whatever order the calls come that are made at the same
time. -/
def Serves (x : Context) (answer : String → Dialogue.Answering Service σ) (r : Http.Request) (s : σ)
    (talk : List (Dialogue.Exchange Service)) (response : Http.Response) (t : σ) : Prop :=
  (x.handle r).Runs answer s talk response t

variable {x : Context} {r : Http.Request} {route : Route} {name token : String}
  {talk : List (Dialogue.Exchange Service)} {response : Http.Response}

/-- To serve a request one thing after the other is one way to serve it. -/
theorem exists_serves (x : Context) (answer : String → Dialogue.Answering Service σ) (r : Http.Request) (s : σ) :
    ∃ talk, x.Serves answer r s talk (x.serve answer r s).value (x.serve answer r s).state ∧
      talk.map (·.1) = (x.serve answer r s).calls := by
  unfold Serves serve
  cases x.handle r with
  | answer response => exact ⟨[], ⟨rfl, rfl, rfl⟩, rfl⟩
  | ask token operation =>
    exact ⟨_, Procedure.runs_inTurn (answer token) operation s, Dialogue.map_fst_exchanges _ _ _⟩

theorem serves_of_answer (handled : x.handle r = .answer response) {told : Http.Response} :
    x.Serves answer r s talk told t ↔ talk = [] ∧ response = told ∧ s = t := by
  rw [Serves, handled]
  rfl

/-- A request that passes both gates is served by a run of its operation. -/
theorem serves_of_asked (reaches : Reaches r route name) (bearer : token? r = some token) {q : Service.Request}
    (accepted : asked? x.lots r name route = some q) :
    x.Serves answer r s talk response t ↔ ∃ result,
      (q.operation x.catalog).procedure.Runs (answer token) s talk result t ∧
        shownTo r (respond x.correlationId (resultJson q) result) = response := by
  rw [Serves, handle_of_asked reaches bearer accepted]
  refine Procedure.runs_andThen.trans ⟨?_, ?_⟩
  · rintro ⟨result, u, first, second, rfl, run, last⟩
    obtain ⟨rfl, told, rfl⟩ := Procedure.runs_done.mp last
    rw [List.append_nil]
    exact ⟨result, run, told⟩
  · rintro ⟨result, run, told⟩
    exact ⟨result, t, talk, [], (List.append_nil talk).symm, run, Procedure.runs_done.mpr ⟨rfl, told, rfl⟩⟩

theorem serve_of_other_method (found : Route.ofTarget? r.target = some route) (own : route ≠ .health)
    (other : r.method ∉ route.methods) : x.serve answer r s = ⟨.methodNotAllowed, s, []⟩ := by
  rw [serve, handle_of_other_method found own other]
  rfl

theorem serve_of_asked (reaches : Reaches r route name) (bearer : token? r = some token)
    {q : Service.Request} (accepted : asked? x.lots r name route = some q) :
    x.serve answer r s =
      let run := Dialogue.run (answer token) (q.operation x.catalog).run s
      ⟨shownTo r (respond x.correlationId (resultJson q) run.value), run.state, run.calls⟩ := by
  have told : ((q.operation x.catalog).procedure.andThen fun result =>
      .done (shownTo r (respond x.correlationId (resultJson q) result))).inTurn =
        (q.operation x.catalog).run.andThen fun result =>
          .done (shownTo r (respond x.correlationId (resultJson q) result)) :=
    Procedure.along_andThen _ _
  rw [serve, handle_of_asked reaches bearer accepted, Handling.run, told, Dialogue.run_andThen]
  simp

end Context
end Armory.Api
