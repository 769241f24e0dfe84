import Armory.Game
import Armory.Report.Account
import Armory.Sum
import Armory.Wire.Link

/-! Calls to the game and what is sent over the link, as JSON. -/
namespace Armory

/-- A request to move an item, as JSON. -/
def TransferRequest.toJson (r : TransferRequest) : Json :=
  .record [("item_hash", .nat r.itemHash.toNat), ("stack_size", .nat r.stackSize),
    ("transfer_to_vault", .bool r.transferToVault), ("item_id", Json.textOrNull r.itemId),
    ("character_id", .text r.characterId), ("membership_type", .int r.membershipType)]

/-- A request to wear an item, as JSON. -/
def EquipRequest.toJson (r : EquipRequest) : Json :=
  .record [("item_id", .text r.itemId), ("character_id", .text r.characterId),
    ("membership_type", .int r.membershipType)]

/-- A request to wear several items, as JSON. -/
def EquipItemsRequest.toJson (r : EquipItemsRequest) : Json :=
  .record [("item_ids", Json.list .int r.itemIds), ("character_id", .text r.characterId),
    ("membership_type", .int r.membershipType)]

/-- The name of a call and its argument as JSON. -/
def Game.Call.parts : Game.Call → String × Json
  | .currentAccount => ("current_account", .null)
  | .loadProfile m => ("load_profile", m.toJson)
  | .loadProgressions m => ("load_progressions", m.toJson)
  | .transferItem r => ("transfer_item", r.toJson)
  | .equipItem r => ("equip_item", r.toJson)
  | .equipItems r => ("equip_items", r.toJson)

/-- A call as JSON. -/
def Game.Call.toJson (c : Game.Call) : Json :=
  .record [("call", .text c.parts.1), ("request", c.parts.2)]

namespace Wire

/-- A request over the link, as JSON. -/
def Request.toJson (r : Request) : Json :=
  .record [("method", .text r.method.name), ("path", .text r.path),
    ("query", Json.textOrNull r.query?), ("body", r.body.getD .null)]

/-- An envelope around any payload, as JSON. -/
def Envelope.toJson (e : Envelope Json) : Json :=
  .record [("response", e.response.getD .null), ("error_code", .int e.errorCode),
    ("throttle_seconds", .int e.throttleSeconds), ("error_status", .text e.errorStatus),
    ("message", .text e.message), ("message_data", e.messageData),
    ("success", .bool e.isSuccess), ("throttled", .bool e.isThrottled)]

/-- What one client sends, as JSON. -/
def Sending.toJson (label : String) (s : Sending) : Json :=
  .record [("client", .text label), ("method", .text s.method.name), ("url", .text s.url),
    ("body", s.body.getD .null), ("api_key", .text s.credentials.apiKey),
    ("access_token", .text s.credentials.accessToken)]

/-- What is sent among the calls of a link, as JSON. -/
def Link.sentToJson (calls : List Link.Call) : Json :=
  .arr (calls.filterMap fun
    | .send c s => some (s.toJson c.label)
    | _ => none)

/-- How long a link pauses in all, in milliseconds. -/
def Link.pausedMillis (calls : List Link.Call) : Nat :=
  sumOf (fun
    | Link.Call.pause n => n
    | _ => 0) calls

end Wire
end Armory
