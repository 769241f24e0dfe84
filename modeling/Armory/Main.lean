import Armory.Command.Arguments
import Armory.Store.Image

/-! The program of an operator. Before a command runs, what it may look at is gathered into a host; afterwards the
database that it changed is written back to its file. -/
namespace Armory.Main

/-- The host with what is found at a path. -/
def addPlace (h : Host) (path : String) : IO Host := do
  match ← (IO.FS.readBinFile path).toBaseIO with
  | .ok b => pure (h.write (Host.placeOf path) (match (String.fromUTF8? b).bind Store.Database.decode? with
    | some d => .database d
    | none => .bytes b))
  | .error (.noFileOrDirectory ..) => pure h
  | .error _ => pure { h with directories := Host.placeOf path :: h.directories }

/-- The host with what is found at a path and on the way to it. -/
def addPath (h : Host) (path : String) : IO Host := do
  let names := Host.names path
  let onTheWay := (List.range (names.length - 1)).map fun k => "/".intercalate (names.take (k + 1))
  (onTheWay ++ [path]).foldlM addPlace h

/-- The host with the text of a variable, if it is set. -/
def addVariable (h : Host) (name : String) : IO Host := do
  match ← IO.getEnv name with
  | some s => pure { h with environment := h.environment.insert name s }
  | none => pure h

/-- The path of the database that the settings of a host name, if it lies in a file. -/
def databasePath? (h : Host) : Option String :=
  match Settings.load h {} with
  | .error _ => none
  | .ok s => match Store.Location.ofUrl s.database.url with
    | .ok l => if l.inMemory then none else some l.file
    | .error _ => none

/-- What the settings of a host come from. -/
def gatherSettings : IO Host := do
  let h ← (SettingKey.all.flatMap (·.allVariables)).foldlM addVariable {}
  let h ← Settings.usualFiles.foldlM addPath h
  match (Settings.file? h {}).map h.read with
  | some (.ok text) => (Settings.Interpolation.names text).foldlM addVariable h
  | _ => pure h

/-- What a command may look at. -/
def gather (c : Command) : IO Host := do
  let h ← gatherSettings
  let paths := match Settings.load h {} with
    | .ok s => s.remote.localAddressesFile :: (databasePath? h).toList
    | .error _ => []
  let paths := match c with
    | .importManifest path => path :: paths
    | _ => paths
  paths.foldlM addPath h

/-- Writes the database of a host to its file, if it has changed. -/
def save (before after : Host) : IO Unit := do
  if let some path := databasePath? after then
    match before.files.get? (Host.placeOf path), after.files.get? (Host.placeOf path) with
    | some (.database old), some (.database new) => if old ≠ new then IO.FS.writeFile path new.encode
    | _, some (.database new) => IO.FS.writeFile path new.encode
    | _, _ => pure ()

end Armory.Main

/-- Carries out the command that the arguments ask for. -/
def main (args : List String) : IO UInt32 := do
  match Armory.Command.ofArguments args with
  | .help =>
    IO.println Armory.Command.usage
    pure 0
  | .refused =>
    IO.eprintln Armory.Command.usage
    pure 2
  | .run c =>
    let before ← Armory.Main.gather c
    let (result, after) := c.run before
    Armory.Main.save before after
    IO.println result.output
    pure (UInt32.ofNat result.exitCode)
