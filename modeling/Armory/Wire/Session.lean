import Armory.Wire.Link
import Armory.Wire.Payload

/-! The calls to the game, carried out by requests over a link. -/
namespace Armory.Wire

/-- One person's access to the game. -/
structure Session where
  catalog : Catalog
  credentials : Credentials

namespace Session

/-- A request carried out by the next client. -/
def request {α : Type} (s : Session) (f : Json → Option α) (r : Request) :
    Dialogue Link (Except GameError (Envelope α)) :=
  .ask .next fun
    | none => .done (.error (.transport "client pool is empty"))
    | some (client : Client) => (client.execute f r s.credentials).andThen fun
      | .error e => .done (.error e.toGameError)
      | .ok envelope => .done (.ok envelope)

/-- The envelope if it reports success. -/
def succeeded {α : Type} (e : Envelope α) : Except GameError (Envelope α) :=
  if e.isSuccess then .ok e else .error (.rejected e.errorCode e.errorStatus e.message)

/-- The payload of an envelope that must have one. -/
def payload {α : Type} (r : Request) (e : Envelope α) : Except GameError α := do
  let e ← succeeded e
  match e.response with
  | some a => .ok a
  | none => .error (.decode (r.path ++ " returned no payload"))

/-- A request for something that must be there. -/
def fetch {α : Type} (s : Session) (f : Json → Option α) (r : Request) :
    Dialogue Link (Except GameError α) :=
  (s.request f r).andThen fun e => .done (e.bind (payload r))

/-- A request to change something. -/
def act (s : Session) (r : Request) : Dialogue Link (Except GameError Unit) :=
  (s.request Envelope.anyPayload r).andThen fun e =>
    .done ((e.bind succeeded).map fun _ => ())

/-- The account behind the token. A single game membership is the one; of any other count, the linked
profile played last is. -/
def currentAccount (s : Session) : Dialogue Link (Except GameError Account) :=
  (s.fetch Memberships.ofJson? .memberships).andThen fun
    | .error e => .done (.error e)
    | .ok m => match m.user, m.memberships with
      | none, _ => .done (.error .noLinkedAccount)
      | some id, [only] => .done (.ok ⟨id, only⟩)
      | some id, _ => (s.fetch LinkedProfiles.ofJson? (.linkedProfiles id)).andThen fun
        | .error e => .done (.error e)
        | .ok linked => match linked.latest? with
          | none => .done (.error .noLinkedAccount)
          | some p => .done (.ok ⟨id, p.membership⟩)

/-- The snapshot of a membership. -/
def loadProfile (s : Session) (m : Membership) : Dialogue Link (Except GameError Snapshot) :=
  (s.fetch (ProfilePayload.ofJson? s.catalog) (.profile m.membershipType m.membershipId)).andThen
    fun p => .done (p.map fun p => p.toSnapshot m)

/-- The progressions of a membership. -/
def loadProgressions (s : Session) (m : Membership) :
    Dialogue Link (Except GameError Progressions) :=
  s.fetch progressions? (.progressions m.membershipType m.membershipId)

/-- A call to the game carried out over the link. -/
def perform (s : Session) : (c : Game.Call) → Dialogue Link (Except GameError c.Success)
  | .currentAccount => s.currentAccount
  | .loadProfile m => s.loadProfile m
  | .loadProgressions m => s.loadProgressions m
  | .transferItem r => s.act (.transferItem r)
  | .equipItem r => s.act (.equipItem r)
  | .equipItems r => s.act (.equipItems r)

end Session
end Armory.Wire
