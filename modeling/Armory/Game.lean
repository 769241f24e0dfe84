import Armory.Dialogue
import Armory.Failure
import Armory.Progression
import Armory.Snapshot

/-! The game as a partner in a dialogue: six calls made for one authenticated person, each of which may
fail. -/
namespace Armory

/-- A request to move one item between a character and the vault. -/
structure TransferRequest where
  itemHash : Hash
  stackSize : Nat
  transferToVault : Bool
  itemId : Option String
  /-- The character that the item leaves or reaches. -/
  characterId : CharacterId
  membershipType : Int
  deriving DecidableEq, Repr

/-- A request to wear one item. -/
structure EquipRequest where
  itemId : String
  characterId : CharacterId
  membershipType : Int
  deriving DecidableEq, Repr

/-- A request to wear several items. -/
structure EquipItemsRequest where
  itemIds : List Int
  characterId : CharacterId
  membershipType : Int
  deriving DecidableEq, Repr

/-- A call to the game. -/
inductive Game.Call where
  | currentAccount
  | loadProfile (membership : Membership)
  | loadProgressions (membership : Membership)
  | transferItem (request : TransferRequest)
  | equipItem (request : EquipRequest)
  | equipItems (request : EquipItemsRequest)
  deriving DecidableEq, Repr

/-- What a call brings if it does not fail. -/
abbrev Game.Call.Success : Game.Call → Type
  | .currentAccount => Account
  | .loadProfile _ => Snapshot
  | .loadProgressions _ => Progressions
  | .transferItem _ => Unit
  | .equipItem _ => Unit
  | .equipItems _ => Unit

/-- The calls of the game and their replies. -/
abbrev Game : Interface where
  Call := Game.Call
  Reply c := Except GameError c.Success

namespace Game

/-- The dialogue that makes one call to the game. -/
def ask (c : Call) : Dialogue Game (Except GameError c.Success) := .ask c .done

/-- Whether a call changes what characters hold or wear. -/
def Call.changes : Call → Bool
  | .transferItem _ | .equipItem _ | .equipItems _ => true
  | _ => false

end Game
end Armory
