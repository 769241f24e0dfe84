import Armory.Host.Connection
import Armory.Json.Writer
import Armory.Settings.Load
import Armory.Wire.Link

/-! Whether the service could start: checks of its settings, of its outbound addresses, of its database and of the
definitions in it. Warnings do not keep the service from starting. -/
namespace Armory.Readiness

/-- How a check went. -/
inductive Status where
  | pass | warn | fail | skipped
  deriving DecidableEq, Repr

/-- The word for a status. -/
def Status.name : Status → String
  | pass => "pass" | warn => "warn" | fail => "fail" | skipped => "skipped"

/-- The mark of a status in a listing. -/
def Status.mark : Status → String
  | pass => "ok" | warn => "warn" | fail => "fail" | skipped => "skip"

/-- A check that has been made. -/
structure Check where
  name : String
  status : Status
  details : String
  deriving DecidableEq, Repr

/-! ## Outbound addresses -/

/-- The text of the file with addresses, if there is one. -/
def addressFile? (h : Host) (s : Settings) : Option String := (h.read s.remote.localAddressesFile).toOption

/-- All outbound addresses, those of the settings first. -/
def addresses (h : Host) (s : Settings) : List String :=
  Wire.Rotation.allAddresses s.remote.localAddresses (addressFile? h s)

/-- The addresses that are none. -/
def unusable (addresses : List String) : List String :=
  addresses.filter fun a => (Net.IpAddress.parse? a).isNone

/-- The check of the outbound addresses. -/
def checkAddresses (h : Host) (s : Settings) : Check :=
  let all := addresses h s
  let bad := unusable all
  let (status, details) : Status × String :=
    if !bad.isEmpty then
      (.warn, toString bad.length ++ " unusable address(es) will be skipped: " ++ ", ".intercalate bad)
    else if all.isEmpty then
      (.pass, "no local addresses in config or \x60" ++ s.remote.localAddressesFile ++
        "\x60; one default client will be used")
    else (.pass, toString all.length ++ " outbound client(s) configured")
  ⟨"outbound_addresses", status, details⟩

/-! ## The database -/

/-- The check of the definitions in a database. -/
def checkDefinitions (d : Store.Database) : Check :=
  let (status, details) : Status × String := match d.loadDefinitions with
    | .ok [] =>
      (.warn, "no item definitions stored; run \x60warmind manifest import <file.json>\x60")
    | .ok definitions => (.pass, toString definitions.length ++ " item definitions stored")
    | .error e => (.fail, e.message ++ "; run \x60warmind migrate\x60 if the schema is missing")
  ⟨"item_manifest", status, details⟩

/-- The checks of a database and its definitions, and the host after them. -/
def checkDatabase (h : Host) (s : Settings) : List Check × Host :=
  match h.connect s.database.url with
  | .error e =>
    ([⟨"database_connectivity", .fail, "failed to connect to database: " ++ e.message⟩,
      ⟨"item_manifest", .skipped, "skipped because the database is unreachable"⟩], h)
  | .ok c =>
    ([⟨"database_connectivity", .pass, "connected using \x60" ++ s.database.url ++ "\x60"⟩,
      checkDefinitions c.database], h.keep c)

/-! ## All checks -/

/-- The check of settings that did not load, and those that could not be made without them. -/
def withoutSettings (e : SettingsError) : List Check :=
  ⟨"config_validation", .fail, e.message⟩ ::
    ["outbound_addresses", "database_connectivity", "item_manifest"].map fun name =>
      ⟨name, .skipped, "skipped because configuration did not load"⟩

/-- All checks of a host, and the host after them. -/
def check (h : Host) : List Check × Host :=
  match Settings.load h {} with
  | .error e => (withoutSettings e, h)
  | .ok s =>
    let r := checkDatabase h s
    (⟨"config_validation", .pass, "configuration loaded and validated"⟩ :: checkAddresses h s :: r.1, r.2)

/-- The status of checks taken together. -/
def overall (checks : List Check) : Status :=
  if checks.any fun c => c.status == .fail || c.status == .skipped then .fail
  else if checks.any (·.status == .warn) then .warn
  else .pass

/-- The sentence for a status of all checks. -/
def summary : Status → String
  | .pass => "doctor: all readiness checks passed"
  | .warn => "doctor: ready with warnings"
  | _ => "doctor: one or more readiness checks failed"

/-! ## Reports -/

/-- Checks as lines of text. -/
def listing (checks : List Check) : String :=
  "\n".intercalate (summary (overall checks) :: checks.map fun c =>
    "- [" ++ c.status.mark ++ "] " ++ c.name ++ ": " ++ c.details)

/-- A check, as JSON. -/
def Check.toJson (c : Check) : Json :=
  .record [("name", .text c.name), ("status", .text c.status.name), ("details", .text c.details)]

/-- Checks, as JSON. -/
def toJson (checks : List Check) : Json :=
  .record [("overall_status", .text (overall checks).name), ("summary", .text (summary (overall checks))),
    ("checks", Json.list Check.toJson checks)]

end Armory.Readiness
