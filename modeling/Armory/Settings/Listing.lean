import Armory.Settings.Load

/-! The settings in force as a listing, each with its value and the source that it is put down to. The key of the
game is shown only by its end, if it is long enough. -/
namespace Armory.Settings

/-- A key as it may be shown. -/
def redact (key : String) : String :=
  let s := Text.trimChars key.toList
  if s.isEmpty then "<empty>"
  else if s.length ≤ 8 then "<redacted>"
  else "***" ++ String.ofList (s.drop (s.length - 4))

/-- Addresses as they are shown. -/
def showAddresses (addresses : List String) : String :=
  if addresses.isEmpty then "<none>" else ", ".intercalate addresses

/-- A format of the log as it is shown. -/
def showFormat : LogFormat → String
  | .compact => "Compact" | .pretty => "Pretty" | .json => "Json"

/-- The value of a setting as it is shown. -/
def shown (s : Settings) : SettingKey → String
  | .databaseUrl => s.database.url
  | .maxConnections => toString s.database.maxConnections
  | .databaseTimeout => toString s.database.timeoutSeconds
  | .apiKey => redact s.remote.apiKey
  | .baseUrl => s.remote.baseUrl
  | .localAddresses => showAddresses s.remote.localAddresses
  | .localAddressesFile => s.remote.localAddressesFile
  | .maxAttempts => toString s.remote.maxAttempts
  | .backoff => toString s.remote.backoffMillis
  | .remoteTimeout => toString s.remote.timeoutSeconds
  | .bindAddress => s.server.bindAddress
  | .port => toString s.server.port
  | .grace => toString s.server.graceSeconds
  | .logLevel => s.logging.level
  | .logFormat => showFormat s.logging.format

/-! ## Sources -/

/-- Where a setting comes from. -/
inductive Source where
  | environment (name : String)
  | file (path : String)
  | default
  deriving DecidableEq, Repr

/-- A source as it is shown. -/
def Source.shown : Source → String
  | environment name => "env (" ++ name ++ ")"
  | file path => "file (" ++ path ++ ")"
  | default => "default"

/-- The settings file of a host, with the table that its text as it stands spells, if it spells one. -/
def document? (h : Host) : Option (String × Toml.Table) := do
  let path ← file? h {}
  match h.read path with
  | .ok raw => (Toml.parse? raw).map (path, ·)
  | .error _ => none

/-- The source that a setting is put down to: the variable named after it, if it is set to anything, or else the
file, if it has the key. -/
def sourceOf (value? : String → Option String) (document : Option (String × Toml.Table))
    (k : SettingKey) : Source :=
  if (value? k.mainVariable).isSome then .environment k.mainVariable
  else match document with
    | some (path, t) => if (t.find? [k.group, k.name]).isSome then .file path else .default
    | none => .default

/-! ## The listing -/

/-- The line of a setting. -/
def line (s : Settings) (source : SettingKey → Source) (k : SettingKey) : String :=
  "- " ++ k.group ++ "." ++ k.name ++ " = " ++ s.shown k ++ " (source: " ++ (source k).shown ++ ")"

/-- The listing of settings. -/
def listing (s : Settings) (source : SettingKey → Source) : String :=
  "\n".intercalate
    ("effective config (source precedence: env > file > default):" :: SettingKey.all.map (s.line source))

/-- The listing of a host's settings, or why there are none. -/
def report (h : Host) : String :=
  match load h {} with
  | .ok s => s.listing (sourceOf h.lookup? (document? h))
  | .error e => "config validation failed: " ++ e.message

end Armory.Settings
