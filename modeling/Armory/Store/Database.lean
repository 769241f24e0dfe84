import Armory.Bits
import Armory.Catalog
import Armory.Store

/-! Storage in a database: tables of rows, with loadouts as texts and hashes as signed numbers of 64 bits. A
loadout has the key of account and name, a definition that of its hash. -/
namespace Armory.Store

/-- A row of the table of loadouts. -/
structure LoadoutRow where
  account : String
  name : String
  text : String
  deriving DecidableEq, Repr

/-- A row of the table of item definitions. -/
structure DefinitionRow where
  itemHash : Int
  name : String
  tier : Int
  guardian : Int
  bucketHash : Int
  deriving DecidableEq, Repr

/-- Whether a row has a key. -/
def LoadoutRow.hasKey (r : LoadoutRow) (account name : String) : Bool :=
  r.account == account && r.name == name

/-- The row of a definition. -/
def DefinitionRow.ofDefinition (x : Definition) : DefinitionRow :=
  ⟨x.itemHash.toNat, x.name, x.tier.code, x.guardian.code, x.bucketHash.toNat⟩

/-- The hash that a column holds; hashes may also have been written as signed numbers of 32 bits. -/
def hashOf (column : String) (n : Int) : Except StoreError Hash :=
  if Bits.holdsEither 32 n then .ok (UInt32.ofNat (n % (Bits.size 32 : Int)).toNat)
  else .error (.decode ("invalid value for \x60" ++ column ++ "\x60 (expected 32-bit hash): "
    ++ toString n))

/-- The definition that a row holds. -/
def DefinitionRow.toDefinition (r : DefinitionRow) : Except StoreError Definition := do
  let itemHash ← hashOf "item_hash" r.itemHash
  let bucketHash ← hashOf "bucket_type_hash" r.bucketHash
  pure { itemHash, name := r.name, tier := Tier.ofCode r.tier, guardian := Guardian.ofCode r.guardian,
         bucketHash }

/-- A database; its tables exist once it has been migrated. -/
structure Database where
  migrated : Bool := false
  loadouts : List LoadoutRow := []
  definitions : List DefinitionRow := []
  log : List (NameKind × String) := []
  /-- Whether the connection has been closed. -/
  closed : Bool := false
  deriving DecidableEq, Repr

namespace Database

/-- The error of a closed connection. -/
def closedError : StoreError := .database "attempted to acquire a connection on a closed pool"

/-- The wording of an error that the database itself reports. -/
def reportText (code : Nat) (text : String) : String :=
  "error returned from database: (code: " ++ toString code ++ ") " ++ text

/-- An error that the database itself reports. -/
def reported (code : Nat) (text : String) : StoreError := .database (reportText code text)

/-- The error of a table that does not exist. -/
def noTable (table : String) : StoreError := reported 1 ("no such table: " ++ table)

/-- The error of a key that is taken. -/
def notUnique : StoreError :=
  reported 1555 "UNIQUE constraint failed: loadouts.membership_id, loadouts.name"

/-- A database with all its tables. -/
def migrate (d : Database) : Database := { d with migrated := true }

/-- Why a table cannot be used, if it cannot. -/
def unusable? (d : Database) (table : String) : Option StoreError :=
  if d.closed then some closedError else if d.migrated then none else some (noTable table)

/-- Whether the database replies at all. -/
def ping (d : Database) : Except StoreError Unit := if d.closed then .error closedError else .ok ()

/-! ## Loadouts -/

/-- The text of the loadout with a key. -/
def text? (d : Database) (account name : String) : Option String :=
  (d.loadouts.find? fun r => r.hasKey account name).map (·.text)

/-- A stored text as a loadout. -/
def decodeText (name text : String) : Except StoreError StoredLoadout :=
  match StoredLoadout.decode? text with
  | some l => .ok l
  | none => .error (.decode ("invalid loadout_json for \x60" ++ name ++ "\x60: "))

/-- The loadout with a key. -/
def select (d : Database) (account name : String) : Except StoreError (Option StoredLoadout) :=
  match d.text? account name with
  | none => .ok none
  | some text => (decodeText name text).map some

/-- The database with one more row. -/
def addRow (d : Database) (account name text : String) : Database :=
  { d with loadouts := d.loadouts ++ [⟨account, name, text⟩] }

/-- The database with the text of a key replaced. -/
def setText (d : Database) (account name text : String) : Database :=
  { d with loadouts := d.loadouts.map fun r =>
      if r.hasKey account name then { r with text } else r }

/-- The names of an account's loadouts in order. -/
def names (d : Database) (account : String) : List String :=
  ((d.loadouts.filter (·.account == account)).map (·.name)).mergeSort fun a b => decide (a ≤ b)

/-- The replies of a database. -/
def answer : Dialogue.Answering Store Database
  | .select account name, d => match d.unusable? "loadouts" with
    | some e => (.error e, d)
    | none => (d.select account name, d)
  | .save account name l, d => match d.unusable? "loadouts" with
    | some e => (.error e, d)
    | none =>
      if (d.text? account name).isSome then (.error notUnique, d)
      else (.ok (), d.addRow account name l.encode)
  | .update account name l, d => match d.unusable? "loadouts" with
    | some e => (.error e, d)
    | none =>
      if (d.text? account name).isSome then (.ok true, d.setText account name l.encode)
      else (.ok false, d)
  | .list account, d => match d.unusable? "loadouts" with
    | some e => (.error e, d)
    | none => (.ok (d.names account), d)
  | .record kind value, d => match d.unusable? "unknown_values" with
    | some e => (.error e, d)
    | none => (.ok (), { d with log := d.log ++ [(kind, value)] })

/-! ## Item definitions -/

/-- The database with the row of a key set or replaced. -/
def putDefinition (d : Database) (r : DefinitionRow) : Database :=
  if d.definitions.any (·.itemHash == r.itemHash) then
    { d with definitions := d.definitions.map fun x => if x.itemHash == r.itemHash then r else x }
  else { d with definitions := d.definitions ++ [r] }

/-- The definitions in the order of their keys. -/
def loadDefinitions (d : Database) : Except StoreError (List Definition) :=
  match d.unusable? "item_definitions" with
  | some e => .error e
  | none =>
    (d.definitions.mergeSort fun a b => decide (a.itemHash ≤ b.itemHash)).mapM
      DefinitionRow.toDefinition

/-- Definitions written into the database, each replacing the one of the same hash; and how many they are. -/
def upsertDefinitions (d : Database) (xs : List Definition) : Except StoreError Nat × Database :=
  match d.closed, d.migrated, xs with
  | true, _, _ => (.error closedError, d)
  | _, false, _ :: _ => (.error (noTable "item_definitions"), d)
  | _, _, _ => (.ok xs.length, xs.foldl (fun d x => d.putDefinition (.ofDefinition x)) d)

end Database
end Armory.Store
