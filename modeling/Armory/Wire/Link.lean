import Armory.Dialogue
import Armory.Net.IpAddress
import Armory.Net.Url
import Armory.Text.Blank
import Armory.Wire.Endpoint
import Armory.Wire.Envelope

/-! Clients that send requests to the game, used in turn. A request is sent again after a pause while its
reply asks for one, up to a limit of attempts. -/
namespace Armory.Wire

/-- Why one exchange with the game failed. -/
inductive LinkError where
  | transport (detail : String)
  | status (code : Nat) (body : String)
  | decode (detail : String)
  | invalidAddress (address : String)
  deriving DecidableEq, Repr

namespace LinkError

/-- The wording of a failed exchange. -/
def message : LinkError → String
  | transport m => "request could not be sent: " ++ m
  | status code body =>
    "remote answered HTTP " ++ toString code ++ " without a readable body: " ++ body
  | decode m => "response body could not be decoded: " ++ m
  | invalidAddress a => "invalid local address \x60" ++ a ++ "\x60"

/-- What a failed exchange means for the call that needed it. -/
def toGameError : LinkError → GameError
  | decode m => .decode m
  | e => .transport e.message

end LinkError

/-- How often and after which pause a request is sent again. -/
structure Patience where
  maxAttempts : Nat := 5
  pauseMillis : Nat := 1000
  deriving DecidableEq, Repr

/-- The patience that settings ask for; at least one attempt is made. -/
def Patience.ofSettings (maxAttempts pauseMillis : Nat) : Patience :=
  ⟨max maxAttempts 1, pauseMillis⟩

/-- One client, named after the local address it sends from. -/
structure Client where
  label : String
  baseUrl : String
  patience : Patience := {}
  deriving DecidableEq, Repr

/-- A client for a base URL, from which slashes at the end are dropped. -/
def Client.create (label baseUrl : String) (patience : Patience) : Client where
  label
  baseUrl := String.ofList (baseUrl.toList.reverse.dropWhile (· == '/')).reverse
  patience

/-- Who asks: the key of this program and the token of the person. -/
structure Credentials where
  apiKey : String
  accessToken : String
  deriving DecidableEq, Repr

/-- A request as it is sent. -/
structure Sending where
  method : Method
  url : String
  body : Option Json
  credentials : Credentials

/-- A reply as it arrives. -/
structure Reply where
  status : Nat
  body : String
  deriving DecidableEq, Repr

/-- What a client and its user ask of the outside. -/
inductive Link.Call where
  /-- The next client in turn. -/
  | next
  | send (client : Client) (sending : Sending)
  | pause (millis : Nat)

/-- Clients, the network and the clock. -/
abbrev Link : Interface where
  Call := Link.Call
  Reply
    | .next => Option Client
    | .send _ _ => Except LinkError Reply
    | .pause _ => Unit

/-- The URL of a request at a client. -/
def Client.url (c : Client) (r : Request) : String :=
  match r.query? with
  | some q => c.baseUrl ++ r.path ++ "?" ++ q
  | none => c.baseUrl ++ r.path

/-- The request as a client sends it. -/
def Client.sending (c : Client) (r : Request) (credentials : Credentials) : Sending :=
  ⟨r.method, c.url r, r.body, credentials⟩

/-- The envelope in a reply. An unreadable body is reported by its status, unless the status is one of
success. -/
def Reply.envelope {α : Type} (f : Json → Option α) (r : Reply) : Except LinkError (Envelope α) :=
  match Envelope.parse? f r.body with
  | some e => .ok e
  | none =>
    if 200 ≤ r.status ∧ r.status < 300 then .error (.decode "") else .error (.status r.status r.body)

/-- A request sent once; a reply that asks for a pause leads to `again`, if that is allowed. -/
def Client.sendOnce {α : Type} (c : Client) (f : Json → Option α) (sending : Sending)
    (again : Option (Dialogue Link (Except LinkError (Envelope α)))) :
    Dialogue Link (Except LinkError (Envelope α)) :=
  .ask (.send c sending) fun
    | .error e => .done (.error e)
    | .ok reply => match reply.envelope f, again with
      | .ok e, some d => if e.isThrottled then d else .done (.ok e)
      | outcome, _ => .done outcome

/-- A request sent once and at most `left` more times, with a pause before each; the last reply counts even
if it asks for another pause. -/
def Client.attempt {α : Type} (c : Client) (f : Json → Option α) (sending : Sending) :
    Nat → Dialogue Link (Except LinkError (Envelope α))
  | 0 => c.sendOnce f sending none
  | left + 1 => c.sendOnce f sending
      (some (.ask (.pause c.patience.pauseMillis) fun _ => attempt c f sending left))

/-- A request carried out by a client, its payload taken by `f`. -/
def Client.execute {α : Type} (c : Client) (f : Json → Option α) (r : Request)
    (credentials : Credentials) : Dialogue Link (Except LinkError (Envelope α)) :=
  c.attempt f (c.sending r credentials) (c.patience.maxAttempts - 1)

/-! ## Clients in turn -/

/-- What all who share a rotation ask of its counter: the next ticket. A ticket is drawn in a single step. -/
abbrev Counter : Interface where
  Call := Unit
  Reply _ := UInt64

/-- A counter gives its tickets in order, and after the last one begins again. -/
def Counter.draw : Dialogue.Answering Counter UInt64 := fun _ ticket => (ticket, ticket + 1)

/-- Clients that are handed out in turn. -/
structure Rotation where
  clients : List Client
  /-- The ticket that is drawn next. -/
  ticket : UInt64 := 0
  deriving DecidableEq, Repr

namespace Rotation

/-- The place of the client that a ticket is for. -/
def place (r : Rotation) (ticket : UInt64) : Nat := ticket.toNat % r.clients.length

/-- The client of a ticket. -/
def client? (r : Rotation) (ticket : UInt64) : Option Client := r.clients[r.place ticket]?

/-- The next client, for whom a ticket is drawn; where there are no clients, none is drawn. -/
def next (r : Rotation) : Dialogue Counter (Option Client) :=
  if r.clients.isEmpty then .done none else .ask () fun ticket => .done (r.client? ticket)

/-- The next client, and the rotation after it has been handed out. -/
def take (r : Rotation) : Option Client × Rotation :=
  let run := r.next.run Counter.draw r.ticket
  (run.value, { r with ticket := run.state })

/-- The addresses that a file lists, one on each line that is not blank. -/
def addressLines (text : String) : List String :=
  ((text.toList.splitOn '\n').map fun line => String.ofList (Text.trimChars line)).filter (· != "")

/-- Whether a client can send from an address. -/
def isUsable (address : String) : Bool := (Net.IpAddress.parse? (Text.trim address)).isSome

/-- All local addresses, the configured ones first. -/
def allAddresses (addresses : List String) (file : Option String) : List String :=
  addresses ++ (file.map addressLines).getD []

/-- A client for each usable address, or else a single one without an address. -/
def ofAddresses (addresses : List String) (file : Option String) (baseUrl : String)
    (patience : Patience) : Rotation :=
  let labels := (allAddresses addresses file).filter isUsable
  let labels := if labels.isEmpty then ["default"] else labels
  { clients := labels.map fun label => Client.create label baseUrl patience }

end Rotation

/-! ## Requests that cannot be sent -/

/-- Whether a text can stand in the head of a request. -/
def isHeaderText (s : String) : Bool :=
  s.toList.all fun c => c == '\t' || (32 ≤ c.toNat && c.toNat != 127)

/-- Why a request cannot even be sent: its URL is none, or has no host or a scheme other than those of
hypertext, or a credential holds a control character. -/
def Sending.refusal? (s : Sending) : Option LinkError :=
  match Net.Url.parse? s.url with
  | none => some (.transport "builder error")
  | some u =>
    let forUrl := LinkError.transport ("builder error for url (" ++ u.render ++ ")")
    if u.host.all (·.isEmpty) then some forUrl
    else if !(isHeaderText s.credentials.apiKey && isHeaderText s.credentials.accessToken) then
      some (.transport "builder error")
    else if u.scheme != "http" && u.scheme != "https" then some forUrl
    else none

end Armory.Wire
