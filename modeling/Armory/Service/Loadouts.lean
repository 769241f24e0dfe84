import Armory.Gear.Equip
import Armory.Loadout.Drawn
import Armory.Service
import Armory.Text.Blank

/-! Loadouts: the most powerful one and one drawn by lot, and loadouts stored under a name. -/
namespace Armory.Service

/-- A loadout that was put on. -/
structure EquippedLoadout where
  characterId : CharacterId
  guardian : Guardian
  loadout : Loadout
  report : Equip.Report

/-- A loadout put on by a character. -/
def equip (l : Loadout) (character : Character) (p : Profile) : Operation EquippedLoadout := do
  let report ← attempt (withGame (Equip.equipping l character.id p))
  let report ← require report
  pure ⟨character.id, character.guardian, l, report⟩

/-- The most powerful loadout put on by the current character. -/
def equipStrongest (c : Catalog) : Operation EquippedLoadout := do
  let (_, p) ← load c true
  let character ← currentCharacter p
  let l ← require (Loadout.strongest c p character.id)
  equip l character p

/-- A loadout drawn by lot and put on by the current character. -/
def equipDrawn (c : Catalog) (includeArmor : Bool) (lots : Lots) : Operation EquippedLoadout := do
  let (_, p) ← load c true
  let character ← currentCharacter p
  let (l, _) ← require (Loadout.drawn p character.id includeArmor lots)
  equip l character p

/-! ## Named loadouts -/

/-- What saving did. -/
inductive SaveStatus where
  | created
  | overwritten
  /-- The name was taken, and nothing was changed. -/
  | conflict
  deriving DecidableEq, Repr

/-- The name of a status. -/
def SaveStatus.name : SaveStatus → String
  | created => "created" | overwritten => "overwritten" | conflict => "conflict"

/-- What became of a request to save a loadout. -/
structure SavedLoadout where
  name : String
  status : SaveStatus
  buckets : Nat
  deriving DecidableEq, Repr

/-- A loadout stored under a name, which is taken over only if asked. -/
def store (accountId name : String) (stored : StoredLoadout) (overwrite : Bool) :
    Operation SaveStatus := do
  if overwrite then
    let updated ← askStore (.update accountId name stored)
    if !updated then askStore (.save accountId name stored)
    pure .overwritten
  else
    let existing ← askStore (.select accountId name)
    if existing.isSome then pure .conflict
    else
      askStore (.save accountId name stored)
      pure .created

/-- What the current character wears, stored under a name. -/
def saveLoadout (c : Catalog) (name : String) (overwrite : Bool) : Operation SavedLoadout := do
  let name := Text.trim name
  if name = "" then throw (.domain (.invariantViolation "loadout name must not be empty"))
  let (a, p) ← load c false
  let character ← currentCharacter p
  let stored := StoredLoadout.ofLoadout ((p.loadout? character.id).getD .empty)
  let status ← store a.accountId name stored overwrite
  pure ⟨name, status, stored.size⟩

/-- Whether a loadout is stored under a name. -/
def loadoutExists (name : String) : Operation Bool := do
  let a ← account
  let existing ← askStore (.select a.accountId name)
  pure existing.isSome

/-- The names of all stored loadouts. -/
def loadoutNames : Operation (List String) := do
  let a ← account
  askStore (.list a.accountId)

/-- A stored loadout that was put on. -/
structure RestoredLoadout where
  name : String
  characterId : CharacterId
  restored : Restored
  report : Equip.Report

/-- A stored loadout put on by the current character. -/
def equipNamed (c : Catalog) (name : String) : Operation (Outcome RestoredLoadout) := do
  let (a, p) ← load c false
  match ← askStore (.select a.accountId name) with
  | none =>
    recordUnknown .loadout name
    pure (.notFound ("you do not have a loadout named " ++ name))
  | some stored =>
    let character ← currentCharacter p
    let restored := Restored.ofStored stored p.items
    let report ← attempt (withGame (Equip.equipping restored.loadout character.id p))
    let report ← require report
    pure (.found ⟨name, character.id, restored, report⟩)

end Armory.Service
