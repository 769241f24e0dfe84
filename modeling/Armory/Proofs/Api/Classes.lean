import Armory.Proofs.Api.Reach
import Armory.Proofs.Service.Faults

/-!
# The gate of the service, and the classes of its answers

A request that leads to a route of the service is stopped at the gate if it bears no token (`Bears`), and then if its
body is not what it should be. Any other one is answered by its operation, and the status tells how that ended
(`Classes`): well, for want of what was relied on, or for a reason of its own. Main statement: `served_classes`.
-/

namespace Armory.Api

open Dialogue (Exchange)
open Service (Broke Excuses Owed Reliance)

/-! ## The gate -/

/-- The first authorization header of a request is plain and consists of `Bearer`, a blank and a token, which may
have white space around it. -/
def Bears (r : Http.Request) (token : String) : Prop :=
  ∃ rest, r.header? "authorization" = some ("Bearer " ++ rest) ∧
    Http.Request.isPlain ("Bearer " ++ rest) = true ∧ Text.trim rest = token ∧ token ≠ ""

theorem token?_eq_some_iff {r : Http.Request} {token : String} : token? r = some token ↔ Bears r token := by
  simp only [token?, Http.Request.plainHeader?, Option.bind_eq_bind, Option.bind_eq_some_iff,
    Option.filter_eq_some_iff, Text.afterStart?_eq_some_iff, Bears]
  constructor
  · rintro ⟨value, ⟨header, plain⟩, rest, split, kept⟩
    have written : value = "Bearer " ++ String.ofList rest := by
      rw [← String.toList_inj, split]
      simp
    split_ifs at kept with empty
    cases kept
    exact ⟨String.ofList rest, written ▸ header, written ▸ plain, rfl, empty⟩
  · rintro ⟨rest, header, plain, rfl, filled⟩
    exact ⟨_, ⟨header, plain⟩, rest.toList, by simp, by simp [filled]⟩

theorem token?_eq_none_iff {r : Http.Request} : token? r = none ↔ ∀ token, ¬ Bears r token := by
  simp only [Option.eq_none_iff_forall_ne_some, ← token?_eq_some_iff, ne_eq]

/-! ## The classes -/

/-- What the status of an answer tells of an operation. -/
structure Classes {α : Type} (status : Nat) (talk : List (Exchange Service)) (result : Except ServiceError α) :
    Prop where
  known : status ∈ [200, 400, 401, 404, 503]
  ok : status = 200 ↔ ∃ a, result = .ok a
  badRequest : status = 400 ↔ ∃ detail, result = .error (.domain (.invariantViolation detail))
  silent : status = 400 → talk = []
  unauthorized : status = 401 ↔ ∃ detail, result = .error (.accountResolution detail)
  unresolved : status = 401 ↔ Broke talk .account
  notFound : status = 404 ↔ result = .error (.domain (.characterNotFound "current"))
  deserted : status = 404 → ∃ membership s,
    ⟨.game (.loadProfile membership), (.ok s : Except GameError Snapshot)⟩ ∈ talk ∧ s.characters = []
  unavailable : status = 503 ↔
    ∃ detail, result = .error (.profileFetch detail) ∨ result = .error (.persistence detail)
  broken : status = 503 ↔ Broke talk .profile ∨ Broke talk .storage

/-- The status of an error. -/
theorem status_respond_error {α : Type} (correlationId : String) (f : α → Json) (e : ServiceError) :
    (respond correlationId f (.error e)).status = (statusOf (Refusal.classify e).1).1 := rfl

/-- The status of an answer tells how an accountable operation ended. -/
theorem classes_respond {α : Type} {talk : List (Exchange Service)} {result : Except ServiceError α}
    (owed : Owed [] talk result) (correlationId : String) (f : α → Json) :
    Classes (respond correlationId f result).status talk result := by
  have broke := @owed.broke_iff
  cases owed with
  | ok a clean => constructor <;> simp [respond, broke]
  | domain clean excuse =>
    rw [status_respond_error]
    cases excuse with
    | request detail silent =>
      refine ⟨?_, ?_, ?_, fun _ => silent, ?_, ?_, ?_, ?_, ?_, ?_⟩
      all_goals simp [Refusal.classify, statusOf, Reliance.error, broke]
    | deserted loaded empty =>
      refine ⟨?_, ?_, ?_, ?_, ?_, ?_, ?_, fun _ => ⟨_, _, loaded, empty⟩, ?_, ?_⟩
      all_goals simp [Refusal.classify, statusOf, Reliance.error, broke]
  | fault reliance detail only =>
    rw [status_respond_error]
    cases reliance
    all_goals constructor <;> simp [Refusal.classify, statusOf, Reliance.error, broke]

end Armory.Api
