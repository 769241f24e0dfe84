import Armory.Bits
import Armory.Settings.Key
import Armory.Settings.Patch
import Armory.Toml.Reader

/-! Settings in a TOML document: a table for each group of settings. Unknown keys are ignored; a known one must
have a value of its type. An array stands for a table if it holds a value for every setting of the group. -/
namespace Armory.Settings

/-- The values that a table gives, by their names. -/
abbrev Given := List (String × Toml)

/-- The values that a document gives for a group of settings. -/
def given? (t : Toml.Table) (group : String) : Option Given :=
  match t.get? group with
  | none | some .moment => some []
  | some (.table t) => some t.entries
  | some (.array items) =>
    let keys := SettingKey.ofGroup group
    if keys.length ≤ items.length then some ((keys.map (·.name)).zip items) else none
  | some _ => none

/-- The value of a setting taken by `f`, if it is given; none where `f` refuses it. -/
def Given.value? {α : Type} (g : Given) (k : SettingKey) (f : Toml → Option α) : Option (Option α) :=
  match g.lookup k.name with
  | none => some none
  | some v => (f v).map some

/-- A text. -/
def text? : Toml → Option String
  | .text s => some s
  | _ => none

/-- A natural number of some count of bits. -/
def natBits? (bits : Nat) : Toml → Option Nat
  | .int (.ofNat n) => if Bits.holds bits n then some n else none
  | _ => none

/-- A list of texts. -/
def texts? : Toml → Option (List String)
  | .array items => items.mapM text?
  | _ => none

/-- Whether a value holds nothing. -/
def isVoid : Toml → Bool
  | .array items => items.isEmpty
  | .table t => t.entries.isEmpty
  | _ => false

/-- A format of the log: its word, or a table that gives nothing under its word. -/
def format? : Toml → Option LogFormat
  | .text s => named? s
  | .table ⟨_, [(s, v)]⟩ => if isVoid v then named? s else none
  | _ => none
where
  /-- The format with a name. -/
  named? (s : String) : Option LogFormat :=
    [LogFormat.compact, .pretty, .json].find? (·.name == s)

/-- The change that a document makes. -/
def Patch.ofTable? (t : Toml.Table) : Option Patch := do
  let database ← given? t "database"
  let remote ← given? t "remote"
  let server ← given? t "server"
  let logging ← given? t "logging"
  pure {
    databaseUrl := ← database.value? .databaseUrl text?
    maxConnections := ← database.value? .maxConnections (natBits? 32)
    databaseTimeout := ← database.value? .databaseTimeout (natBits? 64)
    apiKey := ← remote.value? .apiKey text?
    baseUrl := ← remote.value? .baseUrl text?
    localAddresses := ← remote.value? .localAddresses texts?
    localAddressesFile := ← remote.value? .localAddressesFile text?
    maxAttempts := ← remote.value? .maxAttempts (natBits? 32)
    backoff := ← remote.value? .backoff (natBits? 64)
    remoteTimeout := ← remote.value? .remoteTimeout (natBits? 64)
    bindAddress := ← server.value? .bindAddress text?
    port := ← server.value? .port (natBits? 16)
    grace := ← server.value? .grace (natBits? 64)
    logLevel := ← logging.value? .logLevel text?
    logFormat := ← logging.value? .logFormat format? }

/-- The change that the text of a document makes. -/
def Patch.parse? (s : String) : Option Patch := (Toml.parse? s).bind Patch.ofTable?

end Armory.Settings
