import Armory.Wire.Link

/-! A link as a script: replies that are used up in order by whoever sends, then routes that answer by a part
of the URL. Pauses only let a clock run on. -/
namespace Armory.Wire

/-- A reply for every URL that holds a fragment. -/
structure Link.Route where
  fragment : String
  reply : Except LinkError Reply

/-- A scripted link. -/
structure Link.Script where
  rotation : Rotation
  replies : List (Except LinkError Reply) := []
  routes : List Link.Route := []

namespace Link.Script

/-- The reply of the first route whose fragment occurs in a URL. -/
def routed (s : Script) (url : String) : Except LinkError Reply :=
  match s.routes.find? fun r => Text.occursIn r.fragment.toList url.toList with
  | some r => r.reply
  | none => .error (.transport "script exhausted")

/-- The replies of a scripted link. -/
def answer : Dialogue.Answering Link Script
  | .next, s => (s.rotation.take.1, { s with rotation := s.rotation.take.2 })
  | .send _ sending, s => match s.replies with
    | r :: rest => (r, { s with replies := rest })
    | [] => (s.routed sending.url, s)
  | .pause _, s => ((), s)

end Link.Script
end Armory.Wire
