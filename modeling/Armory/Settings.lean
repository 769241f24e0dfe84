import Armory.Host
import Armory.Text.Blank

/-! The settings of the program: their types and default values, and what can be wrong with them. -/
namespace Armory

/-- How the log is written. -/
inductive LogFormat where
  | compact | pretty | json
  deriving DecidableEq, Repr

/-- The word for a format of the log. -/
def LogFormat.name : LogFormat → String
  | compact => "compact" | pretty => "pretty" | json => "json"

/-- The settings of the database. -/
structure DatabaseSettings where
  url : String := "sqlite://warmind.db"
  maxConnections : Nat := 5
  timeoutSeconds : Nat := 30
  deriving DecidableEq, Repr

/-- The settings of the link to the game. -/
structure RemoteSettings where
  apiKey : String := ""
  baseUrl : String := "https://www.bungie.net/Platform"
  /-- The local addresses from which requests are sent. -/
  localAddresses : List String := []
  /-- A file with more of them, one on each line. -/
  localAddressesFile : String := "local_clients.txt"
  maxAttempts : Nat := 5
  backoffMillis : Nat := 1000
  timeoutSeconds : Nat := 30
  deriving DecidableEq, Repr

/-- The settings of the server. -/
structure ServerSettings where
  bindAddress : String := "127.0.0.1"
  port : Nat := 8080
  graceSeconds : Nat := 15
  deriving DecidableEq, Repr

/-- The settings of the log. -/
structure LoggingSettings where
  level : String := "info"
  format : LogFormat := .compact
  deriving DecidableEq, Repr

/-- All settings. -/
structure Settings where
  database : DatabaseSettings := {}
  remote : RemoteSettings := {}
  server : ServerSettings := {}
  logging : LoggingSettings := {}
  deriving DecidableEq, Repr

/-! ## What can be wrong -/

/-- A rule that settings can break. -/
inductive SettingsRule where
  | databaseUrl
  | maxConnections
  | databaseTimeout
  | apiKey
  | baseUrl
  | localAddress (bad : String)
  | maxAttempts
  | remoteTimeout
  | port
  | grace
  | logLevel
  | logFormat (word : String)
  deriving DecidableEq, Repr

/-- The wording of a rule that is broken. -/
def SettingsRule.message : SettingsRule → String
  | databaseUrl =>
    "database.url must be a sqlite URL (\x60sqlite://...\x60, \x60sqlite::...\x60, or \x60:memory:\x60)"
  | maxConnections => "database.max_connections must be greater than zero"
  | databaseTimeout => "database.timeout_secs must be in range 1..=300"
  | apiKey => "remote.api_key is required. Register an application at " ++
      "https://www.bungie.net/en/Application to get one"
  | baseUrl => "remote.base_url must start with http:// or https://"
  | localAddress bad => "remote.local_addresses contains \x60" ++ bad ++ "\x60, which is not an IP address"
  | maxAttempts => "remote.max_attempts must be in range 1..=10"
  | remoteTimeout => "remote.request_timeout_secs must be in range 1..=300"
  | port => "server.port must be greater than zero"
  | grace => "server.graceful_shutdown_secs must be greater than zero"
  | logLevel => "logging.level must be one of trace|debug|info|warn|error"
  | logFormat word => "unsupported log format \x60" ++ word ++ "\x60 (expected compact|pretty|json)"

/-- Why there are no settings. -/
inductive SettingsError where
  | unreadable (path : String) (fault : FileFault)
  | unparsable (path : String)
  | missingFile (path : String)
  /-- The file refers to a variable that is not set. -/
  | unsetReference (name : String)
  /-- The file holds a reference that does not end. -/
  | openReference
  | badVariable (name value : String)
  | invalid (rule : SettingsRule)
  deriving DecidableEq, Repr

/-- The wording of an error. -/
def SettingsError.message : SettingsError → String
  | unreadable path fault => "could not read config file \x60" ++ path ++ "\x60: " ++ fault.message
  | unparsable path => "could not parse config file \x60" ++ path ++ "\x60: "
  | missingFile path => "required config file was not found: \x60" ++ path ++ "\x60"
  | unsetReference name => "environment variable interpolation failed for \x60" ++ name ++ "\x60"
  | openReference => "unterminated environment interpolation expression"
  | badVariable name value => "invalid environment override for \x60" ++ name ++ "\x60: \x60" ++ value ++ "\x60"
  | invalid rule => "configuration validation failed: " ++ rule.message

/-- The format of the log that a text names, whatever its capitals and the white space around it. -/
def LogFormat.ofText (s : String) : Except SettingsError LogFormat :=
  let word := Text.lowerAscii (Text.trim s)
  match [compact, pretty, json].find? (·.name == word) with
  | some f => .ok f
  | none => .error (.invalid (.logFormat word))

end Armory
