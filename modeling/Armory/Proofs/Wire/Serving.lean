import Armory.Proofs.Service.Operation
import Armory.Wire.Serving

/-! Operations carried out over the link. Dialogues that take turns over it each go a way of their own
(`Backend.fair_abreast`). Main statement: whatever comes over the link, and in whatever order requests are sent that
are under way at the same time, an operation ends in one of the ways in which it can end (`Session.ends_serve`). -/
namespace Armory.Wire

open Dialogue (Exchange)

namespace Backend

variable {α β : Type} {d : Dialogue Backend β} {talk : List (Exchange Backend)} {millis : Nat}

/-- What has gone on during a pause goes on from where it was. -/
theorem goes_duringPause {next : Dialogue Backend β → Dialogue Backend (α × β)} {r : α × β}
    (h : (duringPause millis next d).Goes talk r) :
    ∃ later rest, (next later).Goes rest r ∧ ∀ own b, later.Goes own b → ∃ own', d.Goes own' b := by
  induction d generalizing talk with
  | done b =>
    obtain ⟨-, rest, -, h⟩ := Dialogue.goes_ask.mp h
    exact ⟨.done b, rest, h, fun own _ goes => ⟨own, goes⟩⟩
  | ask c next' ih =>
    -- any other call is made, and the dialogue goes on
    have onward : ∀ {talk}, (Dialogue.ask c fun reply => duringPause millis next (next' reply)).Goes talk r →
        ∃ later rest, (next later).Goes rest r ∧
          ∀ own b, later.Goes own b → ∃ own', (Dialogue.ask c next').Goes own' b := fun h => by
      obtain ⟨reply, rest, -, h⟩ := Dialogue.goes_ask.mp h
      obtain ⟨later, rest, goes, back⟩ := ih reply h
      refine ⟨later, rest, goes, fun own b h => ?_⟩
      obtain ⟨own', before⟩ := back own b h
      exact ⟨_, before.ask⟩
    cases c with
    | store _ => exact onward h
    | link c =>
      cases c with
      | next | send _ _ => exact onward h
      | pause _ =>
        obtain ⟨-, rest, -, h⟩ := Dialogue.goes_ask.mp h
        exact ⟨next' (), rest, h, fun own _ goes => ⟨_, goes.ask⟩⟩

/-- Each of two dialogues that take turns goes a way of its own. -/
theorem goes_alongside {first : Dialogue Backend α} {r : α × β} (h : (alongside first d).Goes talk r) :
    (∃ own, first.Goes own r.1) ∧ ∃ own, d.Goes own r.2 := by
  induction first generalizing d talk with
  | done a =>
    obtain ⟨b, own, rest, -, goes, h⟩ := Dialogue.goes_andThen.mp h
    obtain ⟨-, rfl⟩ := Dialogue.goes_done.mp h
    exact ⟨⟨[], .done a⟩, own, goes⟩
  | ask c next ih =>
    have onward : ∀ {talk}, (Dialogue.ask c fun reply => alongside (next reply) d).Goes talk r →
        (∃ own, (Dialogue.ask c next).Goes own r.1) ∧ ∃ own, d.Goes own r.2 := fun h => by
      obtain ⟨reply, rest, -, h⟩ := Dialogue.goes_ask.mp h
      obtain ⟨⟨own, goes⟩, second⟩ := ih reply h
      exact ⟨⟨_, goes.ask⟩, second⟩
    cases c with
    | store _ => exact onward h
    | link c =>
      cases c with
      | next | send _ _ => exact onward h
      | pause millis =>
        obtain ⟨later, rest, h, back⟩ := goes_duringPause h
        obtain ⟨⟨own, goes⟩, own', goes'⟩ := ih () h
        exact ⟨⟨_, goes.ask⟩, back own' _ goes'⟩

/-- **To take turns is fair**: each of the dialogues goes a way of its own. -/
theorem fair_abreast : Procedure.Way.Fair (I := Backend) abreast := by
  intro β lanes talk values h
  induction lanes generalizing talk values with
  | nil =>
    obtain ⟨-, rfl⟩ := Dialogue.goes_done.mp h
    exact .nil
  | cons d rest ih =>
    obtain ⟨⟨b, bs⟩, first, last, -, turns, h⟩ := Dialogue.goes_andThen.mp h
    obtain ⟨-, rfl⟩ := Dialogue.goes_done.mp h
    obtain ⟨own, _, others⟩ := goes_alongside turns
    exact .cons own (ih others)

end Backend

/-- **Over the link, an operation ends in one of its ways**, whatever the replies to the requests are that are sent
for it, whatever storage replies, and however often a request is sent again while others are under way. So whatever
holds of every way in which it can end holds of what comes of it over the link. -/
theorem Session.ends_serve {α : Type} (s : Session) (x : Operation α) {talk : List (Exchange Backend)}
    {r : Except ServiceError α} (h : (s.serve x.procedure).Goes talk r) : ∃ own, x.Ends own r :=
  Procedure.exists_goes_of_along Backend.fair_abreast h

end Armory.Wire
