import Armory.Net.IpAddress
import Armory.Settings

/-! The rules that settings have to keep. -/
namespace Armory

/-- The rule that is broken, if it is not kept. -/
def SettingsRule.check (kept : Bool) (r : SettingsRule) : List SettingsRule := if kept then [] else [r]

/-- Whether a number lies between one and a limit. -/
def SettingsRule.upTo (limit n : Nat) : Bool := 0 < n && n ≤ limit

open SettingsRule (check upTo)

/-- Whether a URL names a database. -/
def DatabaseSettings.hasUrl (s : DatabaseSettings) : Bool :=
  let url := Text.trimChars s.url.toList
  (Text.afterStart? "sqlite://".toList url).isSome || (Text.afterStart? "sqlite::".toList url).isSome
    || url == ":memory:".toList

/-- The rules that the settings of the database break. -/
def DatabaseSettings.broken (s : DatabaseSettings) : List SettingsRule :=
  check s.hasUrl .databaseUrl
    ++ check (0 < s.maxConnections) .maxConnections
    ++ check (upTo 300 s.timeoutSeconds) .databaseTimeout

/-- Whether the base of all URLs has a scheme of hypertext. -/
def RemoteSettings.hasBaseUrl (s : RemoteSettings) : Bool :=
  (Text.afterStart? "http://".toList s.baseUrl.toList).isSome
    || (Text.afterStart? "https://".toList s.baseUrl.toList).isSome

/-- The rules that the settings of the link break. -/
def RemoteSettings.broken (s : RemoteSettings) : List SettingsRule :=
  check (!Text.blank s.apiKey) .apiKey
    ++ check s.hasBaseUrl .baseUrl
    ++ (s.localAddresses.filter fun a => (Net.IpAddress.parse? a).isNone).map .localAddress
    ++ check (upTo 10 s.maxAttempts) .maxAttempts
    ++ check (upTo 300 s.timeoutSeconds) .remoteTimeout

/-- The rules that the settings of the server break. -/
def ServerSettings.broken (s : ServerSettings) : List SettingsRule :=
  check (0 < s.port) .port ++ check (0 < s.graceSeconds) .grace

/-- The rules that the settings of the log break. -/
def LoggingSettings.broken (s : LoggingSettings) : List SettingsRule :=
  check (["trace", "debug", "info", "warn", "error"].contains (Text.lowerAscii (Text.trim s.level))) .logLevel

/-- The rules that settings break, in the order in which they are checked. -/
def Settings.broken (s : Settings) : List SettingsRule :=
  s.database.broken ++ s.remote.broken ++ s.server.broken ++ s.logging.broken

/-- Settings that break no rule; the first one that is broken is the error. -/
def Settings.validate (s : Settings) : Except SettingsError Settings :=
  match s.broken with
  | [] => .ok s
  | rule :: _ => .error (.invalid rule)

end Armory
