import Armory.Service
import Armory.Wire.Session

/-! The service over the link. An operation talks to the game by requests that a session sends for it. What it has
under way at the same time takes turns: each dialogue goes on, in their order, until it has to pause before it sends a
request again; and when all that are not done pause, they do so together. -/
namespace Armory.Wire

/-- A call that an operation makes where the game is at the other end of a link. -/
inductive Backend.Call where
  | link (call : Link.Call)
  | store (call : Store.Call)

/-- What an operation talks to there. -/
abbrev Backend : Interface where
  Call := Backend.Call
  Reply
    | .link c => Link.Reply c
    | .store c => Except StoreError c.Success

namespace Backend

variable {α β : Type}

/-- While something pauses, which goes on with `next`, another dialogue goes on until it pauses as well or is done. -/
def duringPause (millis : Nat) (next : Dialogue Backend β → Dialogue Backend (α × β)) :
    Dialogue Backend β → Dialogue Backend (α × β)
  | .done b => .ask (.link (.pause millis)) fun _ => next (.done b)
  | .ask (.link (.pause millis')) next' => .ask (.link (.pause (max millis millis'))) fun _ => next (next' ())
  | .ask c next' => .ask c fun reply => duringPause millis next (next' reply)

/-- Two dialogues that take turns, each until it pauses. -/
def alongside : Dialogue Backend α → Dialogue Backend β → Dialogue Backend (α × β)
  | .done a, d => d.andThen fun b => .done (a, b)
  | .ask (.link (.pause millis)) next, d => duringPause millis (alongside (next ())) d
  | .ask c next, d => .ask c fun reply => alongside (next reply) d

/-- Dialogues that take turns, each until it pauses. -/
def abreast : List (Dialogue Backend β) → Dialogue Backend (List β)
  | [] => .done []
  | d :: rest => (alongside d (abreast rest)).andThen fun r => .done (r.1 :: r.2)

end Backend

namespace Session

/-- A call to a partner of the service, carried out with the game at the other end of the link. -/
def carry (s : Session) : (c : Service.Call) → Dialogue Backend (Service.Reply c)
  | .game c => (s.perform c).through fun c => .ask (.link c) .done
  | .store c => .ask (.store c) .done

/-- What an operation does over the link. -/
def serve {α : Type} (s : Session) (p : Procedure Service α) : Dialogue Backend α :=
  (p.through s.carry).along Backend.abreast

end Session
end Armory.Wire
