import Armory.Catalog
import Armory.Equipment
import Armory.Loadout
import Armory.Snapshot

/-! Profiles: an account with every item looked up in the catalog, and with what each character wears and
carries. A profile is assembled from a snapshot, or from a plain list of characters and items. -/
namespace Armory

/-- An account as the rest of the library sees it. -/
structure Profile where
  membershipId : String
  membershipType : Int
  /-- The most recently played character first. -/
  characters : List Character
  items : List Item
  loadouts : Table CharacterId Loadout
  equipments : Table CharacterId Equipment

namespace Profile

/-- The most recently played character. -/
def current? (p : Profile) : Option Character := p.characters.head?

/-- The character with an id. -/
def character? (p : Profile) (id : CharacterId) : Option Character :=
  p.characters.find? (·.id == id)

/-- The most recently played character of a class. -/
def ofClass? (p : Profile) (g : Guardian) : Option Character :=
  p.characters.find? (·.guardian == g)

/-- What a character wears. -/
def loadout? (p : Profile) (id : CharacterId) : Option Loadout := p.loadouts.get? id

/-- What a character carries. -/
def equipment? (p : Profile) (id : CharacterId) : Option Equipment := p.equipments.get? id

end Profile

/-- The item of an inventory entry: its bucket is the one that its definition names, or else the one that
was reported. -/
def Catalog.resolve (c : Catalog) (raw : RawItem) (details : Option InstanceData)
    (owner : Option CharacterId) (worn : Bool) : Item :=
  let definition := c.definition? raw.itemHash
  { itemHash := raw.itemHash
    instanceId := raw.instanceId
    bucketHash := ((definition.map (·.bucketHash)).filter (· != 0)).getD raw.bucketHash
    quantity := raw.quantity
    power := (details.map (·.power)).getD 0
    tier := (definition.map (·.tier)).getD .unknown
    guardian := (definition.map (·.guardian)).getD .unknown
    requiredLevel := (details.map (·.requiredLevel)).getD 0
    canEquip := (details.map (·.canEquip)).getD false
    isEquipped := worn || (details.map (·.isEquipped)).getD false
    isEngram := c.isEngram raw.itemHash
    transferStatus := if worn then .itemIsEquipped else .ofFlags raw.transferFlags
    owner }

namespace Snapshot

/-- The items of a list of entries, each with whether details are reported for it. -/
def resolveAll (s : Snapshot) (c : Catalog) (owner : Option CharacterId) (worn : Bool)
    (raws : List RawItem) : List (Item × Bool) :=
  raws.map fun raw => (c.resolve raw (s.details? raw) owner worn, (s.details? raw).isSome)

/-- The items that one character wears. -/
def wornItems (s : Snapshot) (c : Catalog) (e : CharacterSnapshot) : List (Item × Bool) :=
  s.resolveAll c (some e.character.id) true e.equipment

/-- The items that one character carries without wearing them. -/
def carriedItems (s : Snapshot) (c : Catalog) (e : CharacterSnapshot) : List (Item × Bool) :=
  s.resolveAll c (some e.character.id) false e.inventory

/-- The currencies, which have no details. -/
def currencyItems (s : Snapshot) (c : Catalog) : List (Item × Bool) :=
  s.currencies.map fun raw => (c.resolve raw none none false, false)

/-- Every item of a snapshot with whether details are reported for it: currencies, then the vault, then
each character's worn and carried items. -/
def resolvedItems (s : Snapshot) (c : Catalog) : List (Item × Bool) :=
  s.currencyItems c ++ s.resolveAll c none false s.profileInventory ++
    s.characters.flatMap fun e => s.wornItems c e ++ s.carriedItems c e

end Snapshot

/-- A loadout in which each item stands in the bucket that its hash names; of two items for one bucket the
later one counts. -/
def Catalog.loadoutOf (c : Catalog) (items : List Item) : Loadout :=
  items.foldl (fun l i => match c.bucketOf? i.bucketHash with
    | some b => l.insert b i
    | none => l) .empty

/-- The equipment that the given items make up, each in the bucket that its hash names. -/
def Catalog.equipmentOf (c : Catalog) (items : List Item) : Equipment :=
  items.foldl (fun e i => match c.bucketOf? i.bucketHash with
    | some b => e.push b i
    | none => e) .empty

namespace Profile

/-- The profile of a snapshot. With `detailedOnly`, items without details are left out of `items`, and
currencies with them; loadouts and equipment always hold everything. -/
def assemble (s : Snapshot) (c : Catalog) (detailedOnly : Bool) : Profile where
  membershipId := s.membership.membershipId
  membershipType := s.membership.membershipType
  characters := Character.latestFirst (s.characters.map (·.character))
  items := ((s.resolvedItems c).filter fun i => !detailedOnly || i.2).map (·.1)
  loadouts := Table.ofList (s.characters.map fun e =>
    (e.character.id, c.loadoutOf ((s.wornItems c e).map (·.1))))
  equipments := Table.ofList (s.characters.map fun e =>
    (e.character.id, c.equipmentOf ((s.wornItems c e ++ s.carriedItems c e).map (·.1))))

/-- The profile with one more item in the equipment of its owner, and in the owner's loadout if the item is
worn; items of the vault and of unknown buckets change nothing. -/
def hold (p : Profile) (i : Item) : Profile :=
  match i.owner, Catalog.standard.bucketOf? i.bucketHash with
  | some owner, some b =>
    let p := { p with equipments :=
      p.equipments.insert owner (((p.equipment? owner).getD .empty).push b i) }
    if i.isEquipped then
      { p with loadouts := p.loadouts.insert owner (((p.loadout? owner).getD .empty).insert b i) }
    else p
  | _, _ => p

/-- The profile of plain characters and items under the standard catalog. -/
def ofItems (characters : List Character) (items : List Item) : Profile :=
  items.foldl hold
    { membershipId := "4611686018400000001"
      membershipType := 2
      characters := Character.latestFirst characters
      items
      loadouts := Table.ofList (characters.map fun c => (c.id, .empty))
      equipments := Table.ofList (characters.map fun c => (c.id, .empty)) }

end Profile
end Armory
