import Armory.Settings.Document
import Armory.Settings.Interpolation
import Armory.Settings.Rules
import Armory.Settings.Variables

/-! Loading the settings. A caller's changes go before the variables, these before the file, and the file before
the default values; the outcome has to keep all rules. -/
namespace Armory.Settings

/-- The settings that three changes of the default values give, the last one counting most. -/
def layered (file environment overrides : Patch) : Settings :=
  ((({} : Settings).change file).change environment).change overrides

/-- The files that may hold settings, if none is named. -/
def usualFiles : List String := ["warmind.toml", "config/warmind.toml"]

/-- What a caller asks for. -/
structure Request where
  /-- The file that holds the settings. -/
  path : Option String := none
  /-- Whether there has to be a file. -/
  fileRequired : Bool := false
  overrides : Patch := {}

/-- The file that holds the settings, if there is one. -/
def file? (h : Host) (r : Request) : Option String :=
  match r.path with
  | some path => if h.pathExists path then some path else none
  | none => usualFiles.find? h.pathExists

/-- The change that a file makes. -/
def filePatch (h : Host) (path : String) : Except SettingsError Patch := do
  match h.read path with
  | .error fault => .error (.unreadable path fault)
  | .ok raw =>
    let text ← Interpolation.expand h.lookup? raw
    match Patch.parse? text with
    | some p => .ok p
    | none => .error (.unparsable path)

/-- The change that the file of a host makes, if there is one. -/
def hostPatch (h : Host) (r : Request) : Except SettingsError Patch :=
  match file? h r with
  | some path => filePatch h path
  | none => if r.fileRequired then .error (.missingFile (r.path.getD "warmind.toml")) else .ok {}

/-- The settings of a host. -/
def load (h : Host) (r : Request) : Except SettingsError Settings := do
  let file ← hostPatch h r
  let environment ← Patch.ofVariables h.lookup?
  (layered file environment r.overrides).validate

end Armory.Settings
