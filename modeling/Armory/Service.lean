import Armory.Game
import Armory.Procedure
import Armory.Profile
import Armory.Store

/-! What every operation of the service does first: it asks the game for the account behind the token, and for
the account's profile or progressions. Operations talk to the game and to storage; what went wrong there is
told apart by the step it went wrong in. -/
namespace Armory

/-- A call that an operation makes. -/
inductive Service.Call where
  | game (call : Game.Call)
  | store (call : Store.Call)

/-- The partners of an operation. -/
abbrev Service : Interface where
  Call := Service.Call
  Reply
    | .game c => Except GameError c.Success
    | .store c => Except StoreError c.Success

/-- An operation of the service. -/
abbrev Operation (α : Type) := ExceptT ServiceError (Procedure Service) α

namespace Operation

variable {α : Type}

/-- All that an operation does, up to its result. -/
def procedure (x : Operation α) : Procedure Service (Except ServiceError α) := ExceptT.run x

/-- What an operation does if nothing is begun before what was begun earlier is done. -/
def run (x : Operation α) : Dialogue Service (Except ServiceError α) := x.procedure.inTurn

end Operation

/-- Either a result, or why a request matched nothing. -/
inductive Outcome (α : Type) where
  | found (result : α)
  | notFound (explanation : String)
  deriving DecidableEq, Repr

namespace Service

/-- A procedure as an operation that never fails. -/
def attempt {α : Type} (p : Procedure Service α) : Operation α :=
  ExceptT.mk (p.andThen fun a => .done (.ok a))

/-- A call to the game as part of an operation. -/
def toGame (c : Game.Call) : Dialogue Service (Except GameError c.Success) := .ask (.game c) .done

/-- A procedure with the game as part of an operation. -/
def withGame {α : Type} (p : Procedure Game α) : Procedure Service α := p.through toGame

/-- A call to the game; an error is classed by the step that made the call. -/
def askGame (c : Game.Call) (failed : String → ServiceError) : Operation c.Success :=
  ExceptT.mk (.ask (.game c) fun
    | .ok a => .done (.ok a)
    | .error e => .done (.error (failed e.message)))

/-- A call to storage. -/
def askStore (c : Store.Call) : Operation c.Success :=
  ExceptT.mk (.ask (.store c) fun
    | .ok a => .done (.ok a)
    | .error e => .done (.error (.persistence e.message)))

/-- An unknown name written into the log; whether that succeeds makes no difference. -/
def recordUnknown (kind : Store.NameKind) (value : String) : Operation Unit :=
  ExceptT.mk (.ask (.store (.record kind value)) fun _ => .done (.ok ()))

/-- The account behind the token. -/
def account : Operation Account := askGame .currentAccount .accountResolution

/-- The account and its profile. -/
def load (c : Catalog) (detailedOnly : Bool) : Operation (Account × Profile) := do
  let a ← account
  let s ← askGame (.loadProfile a.membership) .profileFetch
  pure (a, Profile.assemble s c detailedOnly)

/-- The progressions of the account's characters. -/
def progressions : Operation Progressions := do
  let a ← account
  askGame (.loadProgressions a.membership) .profileFetch

/-- The most recently played character, or the error that there is none. -/
def currentCharacter (p : Profile) : Operation Character :=
  match p.current? with
  | some c => pure c
  | none => throw (.domain (.characterNotFound "current"))

/-- The value of a question about characters and gear. -/
def require {α : Type} : Except DomainError α → Operation α
  | .ok a => pure a
  | .error e => throw (.domain e)

end Service
end Armory
