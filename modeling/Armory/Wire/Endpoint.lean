import Armory.Game
import Armory.Json.Value

/-! The endpoints of the game's web interface: which path, query and body each request has. -/
namespace Armory.Wire

/-- How a request is sent. -/
inductive Method where
  | get | post
  deriving DecidableEq, Repr

/-- The name of a method. -/
def Method.name : Method → String
  | get => "GET"
  | post => "POST"

/-- The parts of a profile that can be asked for. -/
inductive Component where
  | profiles | profileInventories | profileCurrencies | characters | characterInventories
  | characterProgressions | characterEquipment | itemInstances
  deriving DecidableEq, Repr

/-- The number of a part. -/
def Component.code : Component → Nat
  | profiles => 100 | profileInventories => 102 | profileCurrencies => 103 | characters => 200
  | characterInventories => 201 | characterProgressions => 202 | characterEquipment => 205
  | itemInstances => 300

/-- The parts that make up a snapshot. -/
def Component.wholeProfile : List Component :=
  [profiles, profileInventories, profileCurrencies, characters, characterInventories,
   characterEquipment, itemInstances]

/-- A request, its path relative to the base of all endpoints. -/
structure Request where
  method : Method := .get
  path : String
  components : List Component := []
  body : Option Json := none

namespace Request

/-- The query that names the parts asked for, if any are. -/
def query? (r : Request) : Option String :=
  if r.components.isEmpty then none
  else some ("components=" ++ ",".intercalate (r.components.map fun c => toString c.code))

/-- The memberships of the person who asks. -/
def memberships : Request := { path := "/User/GetMembershipsForCurrentUser/" }

/-- The platform of accounts that are no game accounts. -/
def accountPlatform : Int := 254

/-- The path under which a profile is found. -/
def profilePath (membershipType : Int) (membershipId : String) : String :=
  "/Destiny2/" ++ toString membershipType ++ "/Profile/" ++ membershipId ++ "/"

/-- The game profiles that are linked to an account. -/
def linkedProfiles (accountId : String) : Request :=
  { path := profilePath accountPlatform accountId ++ "LinkedProfiles/" }

/-- Everything that makes up a snapshot. -/
def profile (membershipType : Int) (membershipId : String) : Request :=
  { path := profilePath membershipType membershipId, components := Component.wholeProfile }

/-- The progressions of all characters. -/
def progressions (membershipType : Int) (membershipId : String) : Request :=
  { path := profilePath membershipType membershipId, components := [.characterProgressions] }

/-- A request that changes something. -/
def action (name : String) (fields : List (String × Json)) : Request :=
  { method := .post, path := "/Destiny2/Actions/Items/" ++ name ++ "/", body := some (.record fields) }

/-- A transfer; items without an identity are named by the instance id `0`. -/
def transferItem (r : TransferRequest) : Request :=
  action "TransferItem" [
    ("itemReferenceHash", .nat r.itemHash.toNat), ("stackSize", .nat r.stackSize),
    ("transferToVault", .bool r.transferToVault), ("itemId", .text (r.itemId.getD "0")),
    ("characterId", .text r.characterId), ("membershipType", .int r.membershipType)]

/-- One item put on. -/
def equipItem (r : EquipRequest) : Request :=
  action "EquipItem" [
    ("itemId", .text r.itemId), ("characterId", .text r.characterId),
    ("membershipType", .int r.membershipType)]

/-- Several items put on. -/
def equipItems (r : EquipItemsRequest) : Request :=
  action "EquipItems" [
    ("itemIds", Json.list Json.int r.itemIds), ("characterId", .text r.characterId),
    ("membershipType", .int r.membershipType)]

end Request
end Armory.Wire
