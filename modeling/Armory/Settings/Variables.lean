import Armory.Bits
import Armory.Settings.Key
import Armory.Settings.Patch
import Armory.Text.Digits

/-! Settings in variables. A blank variable counts as not set. -/
namespace Armory.Settings

variable (value? : String → Option String)

/-- The text that the variables give for a setting. -/
def variableText? (k : SettingKey) : Option String :=
  k.allVariables.findSome? fun name => (value? name).filter fun s => !Text.blank s

/-- The number of some count of bits that the variables give for a setting. -/
def variableNat? (k : SettingKey) (bits : Nat) : Except SettingsError (Option Nat) :=
  match variableText? value? k with
  | none => .ok none
  | some s => match (Text.natural? s).filter (Bits.holds bits) with
    | some n => .ok (some n)
    | none => .error (.badVariable k.mainVariable s)

/-- The format of the log that the variables give. -/
def variableFormat? : Except SettingsError (Option LogFormat) :=
  match variableText? value? .logFormat with
  | none => .ok none
  | some s => (LogFormat.ofText s).map some

/-- The entries of a list with commas between them. -/
def commaList (s : String) : List String :=
  ((Text.splitAt ',' s.toList).map fun entry => String.ofList (Text.trimChars entry)).filter (· != "")

/-- The change that the variables make. -/
def Patch.ofVariables : Except SettingsError Patch := do
  pure {
    databaseUrl := variableText? value? .databaseUrl
    maxConnections := ← variableNat? value? .maxConnections 32
    databaseTimeout := ← variableNat? value? .databaseTimeout 64
    apiKey := variableText? value? .apiKey
    baseUrl := variableText? value? .baseUrl
    localAddresses := (variableText? value? .localAddresses).map commaList
    localAddressesFile := variableText? value? .localAddressesFile
    maxAttempts := ← variableNat? value? .maxAttempts 32
    backoff := ← variableNat? value? .backoff 64
    remoteTimeout := ← variableNat? value? .remoteTimeout 64
    bindAddress := variableText? value? .bindAddress
    port := ← variableNat? value? .port 16
    grace := ← variableNat? value? .grace 64
    logLevel := variableText? value? .logLevel
    logFormat := ← variableFormat? value? }

end Armory.Settings
