import Armory.Catalog
import Armory.Json.Decode
import Armory.Json.Reader

/-! Exports of the game's manifest: an array of records, one for each kind of item. -/
namespace Armory.Manifest

/-- A record of an export. -/
structure Entry where
  itemHash : Hash
  itemName : String
  tierType : Int
  classType : Int
  bucketTypeHash : Hash
  deriving DecidableEq, Repr

/-- The record that a JSON value describes. -/
def Entry.ofJson? (v : Json) : Option Entry := do
  let r ← v.record? ["itemHash", "itemName", "tierType", "classType", "bucketTypeHash"]
  pure {
    itemHash := ← r.required "itemHash" Json.word?
    itemName := ← r.required "itemName" Json.text?
    tierType := ← r.orElse "tierType" 0 Json.long?
    classType := ← r.orElse "classType" Guardian.unknown.code Json.long?
    bucketTypeHash := ← r.orElse "bucketTypeHash" 0 Json.word? }

/-- The definition in a record, without white space around its name. -/
def Entry.definition (e : Entry) : Definition where
  itemHash := e.itemHash
  name := Text.trim e.itemName
  tier := Tier.ofCode e.tierType
  guardian := Guardian.ofCode e.classType
  bucketHash := e.bucketTypeHash

/-- The definitions in an export; records without a name are left out, for nobody could ask for them. -/
def parse? (text : String) : Option (List Definition) := do
  let entries ← (← Json.parse? text).listOf? Entry.ofJson?
  pure ((entries.filter fun e => !Text.blank e.itemName).map Entry.definition)

end Armory.Manifest
