/-! What can go wrong, as causes. Each kind of failure has one function that words it; a failure of the
service is also classed for the outside, where it becomes one of five kinds of refusal. -/
namespace Armory

/-- Why a call to the game failed. -/
inductive GameError where
  | transport (detail : String)
  | decode (detail : String)
  | rejected (code : Int) (status message : String)
  | noLinkedAccount
  deriving DecidableEq, Repr

/-- The wording of a failed call. -/
def GameError.message : GameError → String
  | transport m => "remote transport failed: " ++ m
  | decode m => "remote response could not be decoded: " ++ m
  | rejected code status m =>
    "remote API rejected the request: " ++ status ++ " (" ++ toString code ++ "): " ++ m
  | noLinkedAccount => "no game account is linked to this token"

/-- Why a question about characters and gear has no answer. -/
inductive DomainError where
  | characterNotFound (id : String)
  | invariantViolation (detail : String)
  deriving DecidableEq, Repr

/-- The wording of a question without answer. -/
def DomainError.message : DomainError → String
  | characterNotFound id => "character \x60" ++ id ++ "\x60 is not part of this profile"
  | invariantViolation m => "domain invariant violation: " ++ m

/-- Why an operation of the service failed. -/
inductive ServiceError where
  | domain (cause : DomainError)
  | accountResolution (detail : String)
  | profileFetch (detail : String)
  | persistence (detail : String)
  | integration (detail : String)
  | configuration (detail : String)
  deriving DecidableEq, Repr

/-- The wording of a failed operation. -/
def ServiceError.message : ServiceError → String
  | domain e => e.message
  | accountResolution m => "account resolution failed: " ++ m
  | profileFetch m => "profile fetch failed: " ++ m
  | persistence m => "persistence failure: " ++ m
  | integration m => "integration failure: " ++ m
  | configuration m => "configuration failure: " ++ m

/-- The kinds of refusal that someone outside the service sees. -/
inductive Refusal.Kind where
  | badRequest | unauthorized | notFound | serviceUnavailable | internal
  deriving DecidableEq, Repr

/-- A failure as it is shown to the outside, with the id under which it can be found again. -/
structure Refusal where
  kind : Refusal.Kind
  detail : String
  correlationId : String
  deriving DecidableEq, Repr

namespace Refusal

/-- The id of a refusal that belongs to no request. -/
def unassigned : String := "unassigned"

/-- How a failure is classed and what detail it keeps. -/
def classify : ServiceError → Kind × String
  | .domain (.characterNotFound id) => (.notFound, (DomainError.characterNotFound id).message)
  | .domain (.invariantViolation m) => (.badRequest, (DomainError.invariantViolation m).message)
  | .accountResolution m => (.unauthorized, m)
  | .profileFetch m => (.serviceUnavailable, m)
  | .persistence m => (.serviceUnavailable, m)
  | .integration m => (.serviceUnavailable, m)
  | .configuration m => (.internal, m)

/-- The refusal that a failure causes. -/
def ofError (e : ServiceError) (correlationId : String := unassigned) : Refusal :=
  ⟨(classify e).1, (classify e).2, correlationId⟩

/-- The wording of a refusal in logs. -/
def message (r : Refusal) : String :=
  (match r.kind with
    | .badRequest => "bad request: "
    | .unauthorized => "unauthorized: "
    | .notFound => "not found: "
    | .serviceUnavailable => "service unavailable: "
    | .internal => "internal error: ") ++ r.detail

/-- What the person who asked is told. -/
def userMessage (r : Refusal) : String :=
  match r.kind with
  | .badRequest => "The request could not be processed. Check inputs and try again."
  | .unauthorized =>
    "Your game account could not be loaded. You may need to re-link your account."
  | .notFound => "The requested character or item could not be found."
  | .serviceUnavailable => "The service is temporarily unavailable. Please retry shortly."
  | .internal => "An unexpected internal error occurred."

end Refusal
end Armory
