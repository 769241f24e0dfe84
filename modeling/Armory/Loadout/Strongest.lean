import Armory.Failure
import Armory.Item.Filter
import Armory.Item.Grouping
import Armory.Profile

/-! The most powerful loadout of a character: in every bucket the best item that is no exotic, then exotics
where they raise the power, one for class armor, at most one among the weapons and at most one among the
other armor. -/
namespace Armory

/-- The conditions under which a character may put an item on, with one more on its tier. -/
def Character.eligible (c : Character) (tier : Filter) : List Filter :=
  [.usableBy c.guardian, tier, .maxRequiredLevel c.level, .equippable true]

/-- The character of a profile with an id, or the error that there is none. -/
def Profile.requireCharacter (p : Profile) (id : CharacterId) : Except DomainError Character :=
  match p.character? id with
  | some c => .ok c
  | none => .error (.characterNotFound id)

namespace Loadout

/-- The buckets that the most powerful loadout fills. -/
def filledBuckets : List Bucket :=
  Bucket.all.filter fun b => b != .ghost && b != .subclass

/-- The best item for a bucket among the given ones. -/
def bestFor (c : Catalog) (destination : CharacterId) (items : List Item) (b : Bucket) :
    Option Item :=
  Item.best? destination (c.gearFor b items)

/-- The best item in each bucket that is to be filled. -/
def bestOf (c : Catalog) (destination : CharacterId) (items : List Item) : Loadout :=
  ⟨fun b => if filledBuckets.contains b then bestFor c destination items b else none⟩

/-- The exotic for a bucket, if it is more powerful than what the loadout has there. -/
def exoticFor (c : Catalog) (destination : CharacterId) (exotics : List Item) (l : Loadout)
    (b : Bucket) : Option Item :=
  (bestFor c destination exotics b).filter fun i => l.powerAt b < i.power

/-- The exotic of a category that is to be put on: of those that raise their bucket, the most powerful
one, the first among equals. -/
def exoticOf (c : Catalog) (destination : CharacterId) (exotics : List Item) (l : Loadout)
    (category : List Bucket) : Option (Bucket × Item) :=
  category.foldl (fun best b => match exoticFor c destination exotics l b with
    | none => best
    | some i => match best with
      | none => some (b, i)
      | some (b', j) => if j.power < i.power then some (b, i) else some (b', j)) none

/-- A loadout with the exotic of a category put on. -/
def putExotic (c : Catalog) (destination : CharacterId) (exotics : List Item) (l : Loadout)
    (category : List Bucket) : Loadout :=
  match exoticOf c destination exotics l category with
  | some (b, i) => l.insert b i
  | none => l

/-- The most powerful loadout from the items that a character may use. -/
def strongestFor (c : Catalog) (items : List Item) (character : Character) : Loadout :=
  let plain := Filter.select (character.eligible (.notTier .exotic)) items
  let exotics := Filter.select (character.eligible (.tier .exotic)) items
  [[.classArmor], Bucket.weapons, Bucket.armor].foldl
    (putExotic c character.id exotics) (bestOf c character.id plain)

/-- The most powerful loadout of a character of a profile. -/
def strongest (c : Catalog) (p : Profile) (destination : CharacterId) :
    Except DomainError Loadout := do
  let character ← p.requireCharacter destination
  pure (strongestFor c p.items character)

end Loadout
end Armory
