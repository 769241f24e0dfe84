import Armory.Item
import Armory.Time.Instant

/-! Characters and the accounts that own them. -/
namespace Armory

/-- A character of an account. -/
structure Character where
  id : CharacterId
  membershipId : String
  membershipType : Int
  guardian : Guardian
  level : Nat
  light : Nat
  lastPlayed : Time.Instant
  deriving DecidableEq, Repr

/-- Characters, the most recently played first; those played at one instant keep their order. -/
def Character.latestFirst (cs : List Character) : List Character :=
  cs.mergeSort fun a b => b.lastPlayed.notAfter a.lastPlayed

/-- A membership of a platform, which owns characters. -/
structure Membership where
  membershipId : String
  membershipType : Int
  displayName : String
  deriving DecidableEq, Repr

/-- An account, whose id names the owner of stored loadouts. -/
structure Account where
  accountId : String
  membership : Membership
  deriving DecidableEq, Repr

end Armory
