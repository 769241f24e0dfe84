import Armory.Bucket
import Armory.Item
import Armory.Table
import Armory.Text.Lowercase

/-! What is known about kinds of items: which hash names which bucket and class, the definitions of items, and
the names under which people ask for them. Names are compared in lower case with single spaces between
words, after an alias has been replaced. -/
namespace Armory

/-- What an item of a given hash is. -/
structure Definition where
  itemHash : Hash
  name : String
  tier : Tier
  guardian : Guardian
  bucketHash : Hash
  deriving DecidableEq, Repr

/-- What a catalog is made from. -/
structure Catalog.Source where
  bucketHashes : List (Hash × Bucket) :=
    [(1498876634, .kinetic), (2465295065, .energy), (953998645, .power), (4023194814, .ghost),
     (3448274439, .helmet), (3551918588, .gauntlets), (14239492, .chest), (20886954, .legs),
     (1585787867, .classArmor), (434908299, .artifact), (3284755031, .subclass)]
  classHashes : List (Hash × Guardian) :=
    [(3655393761, .titan), (671679327, .hunter), (2271682572, .warlock)]
  vaultBucketHash : Hash := 138197802
  definitions : List Definition := []
  engramHashes : List Hash := []
  /-- Names that speech recognition splits or mishears. -/
  itemAliases : List (String × String) :=
    [("spin metal", "spinmetal"), ("spin mental", "spinmetal"), ("spin middle", "spinmetal"),
     ("passage coins", "passage coin"), ("strange coins", "strange coin"),
     ("exotic shards", "exotic shard"), ("worm spore", "wormspore"), ("worms for", "wormspore"),
     ("worm for", "wormspore"), ("3 of coins", "three of coins"), ("motes", "mote of light"),
     ("motes of light", "mote of light"), ("e.d.z token", "edz token"),
     ("e.d.z tokens", "edz token"), ("edz tokens", "edz token"), ("edc token", "edz token"),
     ("edc tokens", "edz token")]
  classAliases : List (String × String) := [("fault", "vault"), ("tatum", "titan")]

/-- The form of a name that comparisons use: words with single spaces between them, in lower case. -/
def normalizeName (name : String) : String :=
  String.ofList (Text.lowercase (Text.spaced (Text.words name.toList)))

/-- Whether a definition is one of an engram, by its name. -/
def Definition.namesEngram (d : Definition) : Bool :=
  Text.occursIn "engram".toList (Text.lowercase d.name.toList)

/-- The source with every definition that names an engram among its engrams. -/
def Catalog.Source.withNamedEngrams (s : Catalog.Source) : Catalog.Source :=
  { s with engramHashes :=
      s.engramHashes ++ (s.definitions.filter (·.namesEngram)).map (·.itemHash) }

/-- The value of the last entry of a key. -/
def lastWith {κ α : Type} [BEq κ] (k : κ) (es : List (κ × α)) : Option α :=
  (es.reverse.find? (·.1 == k)).map (·.2)

/-- The tables in which items, buckets, classes and names are looked up. -/
structure Catalog where
  bucketHashes : List (Hash × Bucket)
  classHashes : List (Hash × Guardian)
  vaultBucketHash : Hash
  definitions : Table Hash Definition
  hashByName : Table String Hash
  engramHashes : List Hash
  itemAliases : Table String String
  classAliases : Table String String

namespace Catalog

/-- Aliases and what they stand for, both in the form that comparisons use. -/
def aliasTable (aliases : List (String × String)) : Table String String :=
  Table.ofList (aliases.map fun a => (normalizeName a.1, normalizeName a.2))

/-- The catalog of a source. The last definition of a hash counts, and the first hash of a name. -/
def ofSource (s : Source) : Catalog where
  bucketHashes := s.bucketHashes
  classHashes := s.classHashes
  vaultBucketHash := s.vaultBucketHash
  definitions := Table.ofList (s.definitions.map fun d => (d.itemHash, d))
  hashByName := Table.ofListFirst (s.definitions.map fun d => (normalizeName d.name, d.itemHash))
  engramHashes := s.engramHashes
  itemAliases := aliasTable s.itemAliases
  classAliases := aliasTable s.classAliases

/-- The catalog of the known buckets and classes, without definitions. -/
def standard : Catalog := ofSource {}

/-- The bucket that a hash names. -/
def bucketOf? (c : Catalog) (h : Hash) : Option Bucket := lastWith h c.bucketHashes

/-- The hash that names a bucket. -/
def hashOf? (c : Catalog) (b : Bucket) : Option Hash :=
  lastWith b (c.bucketHashes.map fun e => (e.2, e.1))

/-- The class that a hash names, the unknown one if none. -/
def guardianOf (c : Catalog) (h : Hash) : Guardian := (lastWith h c.classHashes).getD .unknown

/-- The definition of an item hash. -/
def definition? (c : Catalog) (h : Hash) : Option Definition := c.definitions.get? h

/-- Whether items of a hash are engrams. -/
def isEngram (c : Catalog) (h : Hash) : Bool := c.engramHashes.contains h

/-- The item name that a typed name means. -/
def itemName (c : Catalog) (name : String) : String :=
  (c.itemAliases.get? (normalizeName name)).getD (normalizeName name)

/-- The class name that a typed name means. -/
def className (c : Catalog) (name : String) : String :=
  (c.classAliases.get? (normalizeName name)).getD (normalizeName name)

/-- The item hash that a typed name means. -/
def itemHash? (c : Catalog) (name : String) : Option Hash := c.hashByName.get? (c.itemName name)

/-- How many item hashes are defined. -/
def definitionCount (c : Catalog) : Nat := c.definitions.size

end Catalog
end Armory
