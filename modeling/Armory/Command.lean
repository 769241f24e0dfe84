import Armory.Json.Writer
import Armory.Manifest
import Armory.Readiness
import Armory.Settings.Listing

/-! The commands of an operator: they show the settings, check whether the service could start, bring its
database up to date and import item definitions. A command ends with a text and an exit code, and may change the
databases of its host. -/
namespace Armory

/-- A command. -/
inductive Command where
  | migrate
  | config
  | doctor (json : Bool)
  | importManifest (path : String)
  deriving DecidableEq, Repr

namespace Command

/-- How a command ended. -/
structure Result where
  exitCode : Nat
  output : String
  deriving DecidableEq, Repr

/-- Why a command failed. -/
inductive Failure where
  | settings (e : SettingsError)
  | connection (e : Store.ConnectError)
  | migration (text : String)
  | manifestRead (path : String) (fault : FileFault)
  | manifestParse (path : String)
  | manifestWrite (e : StoreError)
  deriving DecidableEq, Repr

namespace Failure

/-- The class of a failure. -/
def name : Failure → String
  | settings _ => "config_validation"
  | connection _ => "db_connectivity"
  | migration _ => "migration"
  | manifestRead _ _ => "manifest_read"
  | manifestParse _ => "manifest_parse"
  | manifestWrite _ => "manifest_write"

/-- The wording of a failure. -/
def message : Failure → String
  | settings e => "configuration issue: " ++ e.message
  | connection e => e.message
  | migration text => text
  | manifestRead path fault => "could not read \x60" ++ path ++ "\x60: " ++ fault.message
  | manifestParse path => "\x60" ++ path ++ "\x60 is not a manifest export: "
  | manifestWrite e => e.message

/-- The exit code of a failure. -/
def exitCode : Failure → Nat
  | settings _ => 2
  | connection _ => 4
  | migration _ => 5
  | manifestRead _ _ | manifestParse _ => 6
  | manifestWrite _ => 7

end Failure

/-- The result of a command that reports in one record. -/
def Result.ofOutcome (command : String) : Except Failure String → Result
  | .ok message => ⟨0, record "ok" none message⟩
  | .error e => ⟨e.exitCode, record "error" (some e.name) e.message⟩
where
  /-- The record of an outcome. -/
  record (status : String) (failure : Option String) (message : String) : String :=
    (Json.record [("command", .text command), ("status", .text status),
      ("error_class", Json.textOrNull failure), ("message", .text message)]).compact

/-- The settings for a command. -/
def settings (h : Host) : Except Failure Settings := (Settings.load h {}).mapError .settings

/-- An open database with all its tables, and the host after it has been opened. -/
def openDatabase (h : Host) (s : Settings) : Except Failure Connection × Host :=
  match h.connect s.database.url with
  | .error e => (.error (.connection e), h)
  | .ok c => match c.migrate with
    | .error text => (.error (.migration text), h.keep c)
    | .ok c => (.ok c, h.keep c)

/-- Bringing the database up to date. -/
def migrateDatabase (h : Host) : Except Failure String × Host :=
  match settings h with
  | .error e => (.error e, h)
  | .ok s =>
    let r := openDatabase h s
    (r.1.map fun _ => "applied pending migrations to \x60" ++ s.database.url ++ "\x60", r.2)

/-- The definitions in an export. -/
def readManifest (h : Host) (path : String) : Except Failure (List Definition) :=
  match h.read path with
  | .error fault => .error (.manifestRead path fault)
  | .ok text => match Manifest.parse? text with
    | some definitions => .ok definitions
    | none => .error (.manifestParse path)

/-- Writing the definitions of an export into the database. -/
def importDefinitions (h : Host) (path : String) : Except Failure String × Host :=
  match settings h with
  | .error e => (.error e, h)
  | .ok s => match readManifest h path with
    | .error e => (.error e, h)
    | .ok definitions => match openDatabase h s with
      | (.error e, h) => (.error e, h)
      | (.ok c, h) => match c.upsertDefinitions definitions with
        | (.error e, c) => (.error (.manifestWrite e), h.keep c)
        | (.ok n, c) => (.ok ("imported " ++ toString n ++ " item definitions"), h.keep c)

/-- A command carried out on a host: its result, and the host after it. -/
def run (h : Host) : Command → Result × Host
  | config => (⟨0, Settings.report h⟩, h)
  | doctor json =>
    let r := Readiness.check h
    (⟨0, if json then (Readiness.toJson r.1).pretty else Readiness.listing r.1⟩, r.2)
  | migrate =>
    let r := migrateDatabase h
    (.ofOutcome "migrate" r.1, r.2)
  | importManifest path =>
    let r := importDefinitions h path
    (.ofOutcome "manifest_import" r.1, r.2)

end Command
end Armory
