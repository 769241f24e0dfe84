import Armory.Draw
import Armory.Loadout.Strongest

/-! A loadout drawn by lot from what a character carries: each weapon bucket, and each armor bucket if asked,
gets an item that is no exotic; then one bucket of each category may get an exotic. An exotic that is worn
and that no other item could replace keeps its category's exotic in its own bucket. -/
namespace Armory.Loadout

/-- A loadout with one item of a list put into a bucket by lot; unchanged if the list is empty. -/
def drawInto (b : Bucket) (candidates : List Item) (s : Loadout × Lots) : Loadout × Lots :=
  match s.2.choose candidates with
  | (some i, lots) => (s.1.insert b i, lots)
  | (none, lots) => (s.1, lots)

/-- What a character carries in a bucket without wearing it, as far as it meets the conditions. -/
def spare (e : Equipment) (filters : List Filter) (b : Bucket) : List Item :=
  Filter.select filters (e.unequipped b)

/-- The bucket of a category that may get an exotic: the one that holds an exotic already, or else one by
lot. -/
def exoticBucket (category : List Bucket) (s : Loadout × Lots) : Option Bucket × Lots :=
  match category.find? fun b => (s.1.get? b).any (·.isExotic) with
  | some b => (some b, s.2)
  | none => s.2.choose category

/-- A loadout with an exotic put into one bucket of a category by lot. -/
def drawExotic (e : Equipment) (filters : List Filter) (s : Loadout × Lots)
    (category : List Bucket) : Loadout × Lots :=
  match exoticBucket category s with
  | (some b, lots) => drawInto b (spare e filters b) (s.1, lots)
  | (none, lots) => (s.1, lots)

/-- The categories that are drawn anew. -/
def drawnCategories (includeArmor : Bool) : List (List Bucket) :=
  if includeArmor then [Bucket.weapons, Bucket.armor] else [Bucket.weapons]

/-- A loadout drawn anew from what a character carries. -/
def redraw (character : Character) (e : Equipment) (includeArmor : Bool) (s : Loadout × Lots) :
    Loadout × Lots :=
  let categories := drawnCategories includeArmor
  let plain := character.eligible (.notTier .exotic)
  let exotic := character.eligible (.tier .exotic)
  let s := categories.flatten.foldl (fun s b => drawInto b (spare e plain b) s) s
  categories.foldl (drawExotic e exotic) s

/-- A loadout of a character drawn by lot, starting from what it wears. -/
def drawn (p : Profile) (destination : CharacterId) (includeArmor : Bool) (lots : Lots) :
    Except DomainError (Loadout × Lots) := do
  let character ← p.requireCharacter destination
  let worn := (p.loadout? destination).getD .empty
  match p.equipment? destination with
  | none => pure (worn, lots)
  | some e => pure (redraw character e includeArmor (worn, lots))

end Armory.Loadout
