import Armory.Scenario.Link
import Armory.Store.Shelf
import Armory.Wire.Serving

/-! Everything that the service talks to, as a scenario: a scripted game, or a scripted link to one, and one of
two kinds of storage. -/
namespace Armory.Scenario

open Armory.Wire
open Armory.Store (Shelf)

/-- Empty storage of either kind. -/
def shelfOf (backend : Json) : Shelf :=
  if backend.text? == some "sql" then .inr (Store.Database.migrate {}) else .inl {}

/-- What the service talks to. -/
structure World where
  catalog : Catalog
  /-- The link to the game; without it the game answers by itself. -/
  link : Option Link.Script
  game : Game.Script
  shelf : Shelf
  /-- What was sent over the link. -/
  sent : List Link.Call := []

namespace World

/-- The world of a scenario. -/
def ofJson (c : Catalog) (v : Json) : World where
  catalog := c
  link := (v.get "remote").given? linkOf
  game := gameOf (v.get "api")
  shelf := shelfOf (v.get "backend")

/-- The replies of a world whose game answers by itself. -/
def answer : Dialogue.Answering Service World
  | .game c, w => (w.game.reply c, w)
  | .store c, w => ((w.shelf.answer c).1, { w with shelf := (w.shelf.answer c).2 })

/-- The replies of a world with the game at the other end of the link. -/
def answerBackend : Dialogue.Answering Backend (Link.Script × Shelf)
  | .link c, (link, shelf) => ((link.answer c).1, ((link.answer c).2, shelf))
  | .store c, (link, shelf) => ((shelf.answer c).1, (link, (shelf.answer c).2))

/-- What is done on behalf of the bearer of a token: over the link, if there is one, and otherwise one thing after
the other. -/
def perform {α : Type} (token : String) (p : Procedure Service α) (w : World) : Dialogue.Run Service α World :=
  match w.link with
  | none => p.inTurn.run answer w
  | some link =>
    let r := (Session.serve ⟨w.catalog, "api-key", token⟩ p).run answerBackend (link, w.shelf)
    let sent := r.calls.filterMap fun
      | .link c => some c
      | .store _ => none
    ⟨r.value, { w with link := some r.state.1, shelf := r.state.2, sent := w.sent ++ sent }, []⟩

/-- The world with its database changed, if it has one. -/
def onDatabase (w : World) (f : Store.Database → Store.Database) : World :=
  { w with shelf := w.shelf.map id f }

/-- The world after an event outside the service, if the value describes one: another game, a closed
database, or a stored loadout that is damaged. -/
def stage? (w : World) (v : Json) : Option World :=
  match v.textAt "call" with
  | "set_api" => some { w with game := gameOf (v.get "api") }
  | "close_db" => some (w.onDatabase fun d => { d with closed := true })
  | "corrupt_loadout" => some (w.onDatabase fun d =>
      d.addRow (v.textAt "membership_id") (v.textAt "name") (v.textAt "raw"))
  | _ => none

end World
end Armory.Scenario
