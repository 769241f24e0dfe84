import Armory.Health
import Armory.Http.MediaType
import Armory.Http.Message
import Armory.Http.Target
import Armory.Json.Decode
import Armory.Json.Reader
import Armory.Net.Percent
import Armory.Report.Service

/-! The service over hypertext. A path leads to a route, and a route and a method to an operation. All routes
but the health report need a bearer token; the first thing that is wrong with a request decides the answer:
the path, the method, the encoding of a name, the token, the body, and last the operation. -/
namespace Armory.Api

/-! ## Routes -/

/-- Where a path leads. -/
inductive Route where
  | health
  | loadouts
  | strongest
  | drawn
  | loadout (name : List Char)
  | equip (name : List Char)
  | count (name : List Char)
  | transfer
  | engrams
  | crucible
  | gambit
  deriving DecidableEq, Repr

/-- The route of the segments of a path; a fixed word comes before a name, and a name at the end is not
empty. -/
def Route.ofSegments? : List String → Option Route
  | ["health"] => some .health
  | ["v1", "loadouts"] => some .loadouts
  | ["v1", "loadouts", "max-power"] => some .strongest
  | ["v1", "loadouts", "random"] => some .drawn
  | ["v1", "loadouts", name] => if name = "" then none else some (.loadout name.toList)
  | ["v1", "loadouts", name, "equip"] => some (.equip name.toList)
  | ["v1", "items", "transfer"] => some .transfer
  | ["v1", "items", name, "count"] => some (.count name.toList)
  | ["v1", "engrams", "unload"] => some .engrams
  | ["v1", "rankings", "crucible"] => some .crucible
  | ["v1", "rankings", "gambit"] => some .gambit
  | _ => none

/-- The route of a target. -/
def Route.ofTarget? (target : String) : Option Route :=
  (Http.Target.segments? target).bind fun segments => ofSegments? (segments.map String.ofList)

/-- The methods of a route. -/
def Route.methods : Route → List String
  | .loadouts => ["GET", "HEAD", "POST"]
  | .health | .loadout _ | .count _ | .crucible | .gambit => ["GET", "HEAD"]
  | .strongest | .drawn | .equip _ | .transfer | .engrams => ["POST"]

/-- The name in a route, as it is written in the path. -/
def Route.name? : Route → Option (List Char)
  | .loadout name | .equip name | .count name => some name
  | _ => none

/-! ## Answers -/

/-- The status and the word of a kind of refusal. -/
def statusOf : Refusal.Kind → Nat × String
  | .badRequest => (400, "bad_request")
  | .unauthorized => (401, "unauthorized")
  | .notFound => (404, "not_found")
  | .serviceUnavailable => (503, "service_unavailable")
  | .internal => (500, "internal")

/-- A refusal as a response. -/
def refuse (r : Refusal) : Http.Response where
  status := (statusOf r.kind).1
  body := .json (.record [("error", .text (statusOf r.kind).2), ("message", .text r.userMessage),
    ("correlation_id", .text r.correlationId)])

/-- The result of an operation as a response. -/
def respond {α : Type} (correlationId : String) (f : α → Json) :
    Except ServiceError α → Http.Response
  | .ok a => { status := 200, body := .json (f a) }
  | .error e => refuse (Refusal.ofError e correlationId)

/-- An operation that ends with a response. -/
def conclude {α : Type} (correlationId : String) (f : α → Json) (o : Operation α) :
    Procedure Service Http.Response :=
  o.procedure.andThen fun r => .done (respond correlationId f r)

/-! ## Bodies -/

/-- The body of a request to draw a loadout. -/
def drawnBody? (v : Json) : Option Bool := do
  let r ← v.record? ["include_armor"]
  r.orElse "include_armor" false Json.bool?

/-- The body of a request to save a loadout: its name, and whether it may take over a name. -/
def saveBody? (v : Json) : Option (String × Bool) := do
  let r ← v.record? ["name", "overwrite"]
  let name ← r.required "name" Json.text?
  let overwrite ← r.orElse "overwrite" false Json.bool?
  pure (name, overwrite)

/-- The body of a request to move items. -/
def transferBody? (v : Json) : Option Service.TransferOrder := do
  let r ← v.record? ["item_name", "count", "source_class", "destination_class"]
  let itemName ← r.required "item_name" Json.text?
  let count ← r.optional "count" Json.long?
  let source ← r.optional "source_class" Json.text?
  let destination ← r.optional "destination_class" Json.text?
  pure { itemName, count, source, destination }

/-- Whether a request says that its body is JSON. -/
def saysJson (r : Http.Request) : Bool :=
  (((r.plainHeader? "content-type").bind Http.MediaType.parse?).map (·.isJson)).getD false

/-- The most bytes that a body may have. -/
def bodyLimit : Nat := 2097152

/-- The body of a request that must have one. -/
def body? {α : Type} (f : Json → Option α) (r : Http.Request) : Option α :=
  if saysJson r && r.body.utf8ByteSize ≤ bodyLimit then (Json.parse? r.body).bind f else none

/-- The body of a request, or a default if the request does not say what its body is. -/
def bodyOr? {α : Type} (default : α) (f : Json → Option α) (r : Http.Request) : Option α :=
  if (r.header? "content-type").isNone then some default else body? f r

/-! ## Requests -/

/-- The token of a request: what follows `Bearer` and a blank, without white space around it. -/
def token? (r : Http.Request) : Option String := do
  let value ← r.plainHeader? "authorization"
  let rest ← Text.afterStart? "Bearer ".toList value.toList
  let token := Text.trim (String.ofList rest)
  if token = "" then none else some token

/-- What answering a request takes: nothing more, or an operation on behalf of the bearer of a token. -/
inductive Handling where
  | answer (response : Http.Response)
  | ask (token : String) (operation : Procedure Service Http.Response)

/-- What the routes share: the catalog, the chance for drawn loadouts, the id of the request, and the health,
if it is reported. -/
structure Context where
  catalog : Catalog
  lots : Lots
  correlationId : String
  health : Option Health
  /-- What the framework says of a request whose body it does not take; only the log of the refusal has it. -/
  rejection : Http.Request → String

namespace Context

/-- The operation of a route, whose name is already decoded, and of a method; none if the body of the request
is not what the operation needs. -/
def operation? (x : Context) (r : Http.Request) (name : String) :
    Route → Option (Procedure Service Http.Response)
  | .health => none
  | .loadouts =>
    if r.method = "POST" then
      (body? saveBody? r).map fun b =>
        conclude x.correlationId (·.toJson) (Service.saveLoadout x.catalog b.1 b.2)
    else some (conclude x.correlationId
      (fun names => .record [("names", Json.list .text names)]) Service.loadoutNames)
  | .strongest => some (conclude x.correlationId (·.toJson) (Service.equipStrongest x.catalog))
  | .drawn => (bodyOr? false drawnBody? r).map fun includeArmor =>
    conclude x.correlationId (·.toJson) (Service.equipDrawn x.catalog includeArmor x.lots)
  | .loadout _ => some (conclude x.correlationId
      (fun found => .record [("name", .text name), ("exists", .bool found)])
      (Service.loadoutExists name))
  | .equip _ => some (conclude x.correlationId (Outcome.toJson (·.toJson))
      (Service.equipNamed x.catalog name))
  | .count _ => some (conclude x.correlationId (Outcome.toJson (·.toJson))
      (Service.countItem x.catalog name))
  | .transfer => (body? transferBody? r).map fun order =>
    conclude x.correlationId (Outcome.toJson (·.toJson)) (Service.transferItem x.catalog order)
  | .engrams => some (conclude x.correlationId (Outcome.toJson (·.toJson))
      (Service.unloadEngrams x.catalog))
  | .crucible => some (conclude x.correlationId (Outcome.toJson (·.toJson)) Service.crucibleRanks)
  | .gambit => some (conclude x.correlationId (Outcome.toJson (·.toJson)) Service.gambitRank)

/-- The response to a request without a token. -/
def unauthorized (x : Context) : Http.Response :=
  refuse ⟨.unauthorized, "missing bearer access token", x.correlationId⟩

/-- The response to a request whose body is not what it should be. -/
def badBody (x : Context) (r : Http.Request) : Http.Response :=
  refuse ⟨.badRequest, x.rejection r, x.correlationId⟩

/-- The response to a name that is not well encoded. -/
def badName : Http.Response :=
  { status := 400, body := .text "Invalid URL: Invalid UTF-8 in \x60name\x60" }

/-- The health report as a response. -/
def healthResponse (h : Health) : Http.Response :=
  { status := if h.isReady then 200 else 503, body := .json h.toJson }

/-- What answering a request takes, once its route is known and has its method. -/
def handleRoute (x : Context) (r : Http.Request) (route : Route) : Handling :=
  match Net.Percent.decode? (route.name?.getD []) with
  | none => .answer badName
  | some name => match route, x.health with
    | .health, some h => .answer (healthResponse h)
    | _, _ => match token? r with
      | none => .answer x.unauthorized
      | some token => match x.operation? r name route with
        | none => .answer (x.badBody r)
        | some operation => .ask token operation

/-- A handling whose response lacks its body. -/
def headOf : Handling → Handling
  | .answer r => .answer r.head
  | .ask token operation => .ask token (operation.andThen fun r => .done r.head)

/-- What answering a request takes. -/
def handle (x : Context) (r : Http.Request) : Handling :=
  match (Route.ofTarget? r.target).filter fun route => route != .health || x.health.isSome with
  | none => .answer .notFound
  | some route =>
    if !route.methods.contains r.method then .answer .methodNotAllowed
    else if r.method = "HEAD" then headOf (x.handleRoute r route)
    else x.handleRoute r route

end Context
end Armory.Api
