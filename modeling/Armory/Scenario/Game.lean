import Armory.Game.Script
import Armory.Scenario.Gear

/-! Scenarios written as JSON: requests to the game, and scripted games. -/
namespace Armory.Scenario

/-- Why a call to the game fails. -/
def gameErrorOf (v : Json) : GameError :=
  match v.textAt "kind" with
  | "transport" => .transport (v.textAt "message")
  | "decode" => .decode (v.textAt "message")
  | "api" => .rejected (v.intAt "code") (v.textAt "status") (v.textAt "message")
  | _ => .noLinkedAccount

/-- A request to move an item. -/
def transferRequestOf (v : Json) : TransferRequest where
  itemHash := v.wordAt "item_hash"
  stackSize := v.natAt "stack_size"
  transferToVault := v.boolAt "transfer_to_vault"
  itemId := (v.get "item_id").text?
  characterId := v.textAt "character_id"
  membershipType := v.intAt "membership_type"

/-- A request to wear an item. -/
def equipRequestOf (v : Json) : EquipRequest where
  itemId := v.textAt "item_id"
  characterId := v.textAt "character_id"
  membershipType := v.intAt "membership_type"

/-- A request to wear several items. -/
def equipItemsRequestOf (v : Json) : EquipItemsRequest where
  itemIds := v.listAt Json.asInt "item_ids"
  characterId := v.textAt "character_id"
  membershipType := v.intAt "membership_type"

/-- A rule by which calls fail. -/
def ruleOf (v : Json) : Game.Script.Rule where
  target := match v.textAt "call" with
    | "transfer_item" => .transferItem
    | "equip_item" => .equipItem
    | _ => .equipItems
  error := gameErrorOf (v.get "error")
  itemHash := (v.get "item_hash").asWord?
  itemId := (v.get "item_id").text?
  toVault := (v.get "transfer_to_vault").bool?
  characterId := (v.get "character_id").text?

/-- A scripted game. -/
def gameOf (v : Json) : Game.Script where
  account := (v.get "account").given? accountOf
  accountError := (v.get "account_error").given? gameErrorOf
  snapshot := (v.get "snapshot").given? snapshotOf
  snapshotError := (v.get "snapshot_error").given? gameErrorOf
  progressions := (v.get "progressions").given? progressionsOf
  progressionsError := (v.get "progressions_error").given? gameErrorOf
  rules := v.listAt ruleOf "failures"

end Armory.Scenario
