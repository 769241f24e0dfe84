import Armory.Scenario.Game
import Armory.Wire.Script
import Armory.Wire.Session

/-! Scenarios written as JSON: requests over the link to the game, and scripted links. -/
namespace Armory.Scenario

open Armory.Wire

/-- A request over the link. -/
def requestOf (v : Json) : Request :=
  match v.textAt "kind" with
  | "current_account" => .memberships
  | "linked_profiles" => .linkedProfiles (v.textAt "membership_id")
  | "user_profile" => .profile (v.intAt "membership_type") (v.textAt "membership_id")
  | "progressions" => .progressions (v.intAt "membership_type") (v.textAt "membership_id")
  | "transfer_item" => .transferItem (transferRequestOf v)
  | "equip_item" => .equipItem (equipRequestOf v)
  | _ => .equipItems (equipItemsRequestOf v)

/-- A scripted reply. -/
def replyOf (v : Json) : Except LinkError Reply :=
  match (v.get "transport_error").text? with
  | some m => .error (.transport m)
  | none => .ok ⟨v.natAt "status", v.textAt "body"⟩

/-- The patience of clients. -/
def patienceOf (v : Json) : Patience :=
  (v.given? fun p => Patience.ofSettings (p.natAt "max_attempts") (p.natAt "backoff_ms")).getD {}

/-- Clients with given labels, in turn. -/
def rotationOf (labels : List Json) (baseUrl : String) (patience : Patience) : Rotation :=
  { clients := labels.map fun label => Client.create label.asText baseUrl patience }

/-- A scripted link. -/
def linkOf (v : Json) : Link.Script where
  rotation := rotationOf (((v.get "clients").given? Json.asList).getD [.text "c0"])
    (v.textOr "base_url" "https://api.test/Platform") (patienceOf (v.get "policy"))
  replies := v.listAt replyOf "replies"
  routes := v.listAt (fun r => ⟨r.textAt "fragment", replyOf r⟩) "routes"

/-- Who asks. -/
def credentialsOf (v : Json) : Credentials :=
  ⟨v.textOr "api_key" "api_key", v.textOr "access_token" "access_token"⟩

end Armory.Scenario
