/-! The settings by name: where each one stands in a settings file, and which variables set it. -/
namespace Armory

/-- The name of one setting. -/
inductive SettingKey where
  | databaseUrl | maxConnections | databaseTimeout
  | apiKey | baseUrl | localAddresses | localAddressesFile | maxAttempts | backoff | remoteTimeout
  | bindAddress | port | grace
  | logLevel | logFormat
  deriving DecidableEq, Repr

namespace SettingKey

/-- All settings, in the order in which they are listed. -/
def all : List SettingKey :=
  [databaseUrl, maxConnections, databaseTimeout,
   apiKey, baseUrl, localAddresses, localAddressesFile, maxAttempts, backoff, remoteTimeout,
   bindAddress, port, grace, logLevel, logFormat]

/-- The table of a settings file in which a setting stands. -/
def group : SettingKey → String
  | databaseUrl | maxConnections | databaseTimeout => "database"
  | apiKey | baseUrl | localAddresses | localAddressesFile | maxAttempts | backoff | remoteTimeout => "remote"
  | bindAddress | port | grace => "server"
  | logLevel | logFormat => "logging"

/-- The name of a setting in its table. -/
def name : SettingKey → String
  | databaseUrl => "url"
  | maxConnections => "max_connections"
  | databaseTimeout => "timeout_secs"
  | apiKey => "api_key"
  | baseUrl => "base_url"
  | localAddresses => "local_addresses"
  | localAddressesFile => "local_addresses_file"
  | maxAttempts => "max_attempts"
  | backoff => "throttle_backoff_ms"
  | remoteTimeout => "request_timeout_secs"
  | bindAddress => "bind_address"
  | port => "port"
  | grace => "graceful_shutdown_secs"
  | logLevel => "level"
  | logFormat => "format"

/-- The settings of a table, in their order. -/
def ofGroup (table : String) : List SettingKey := all.filter (·.group == table)

/-- The variable named after a setting. -/
def mainVariable : SettingKey → String
  | databaseUrl => "WARMIND_DATABASE_URL"
  | maxConnections => "WARMIND_DATABASE_MAX_CONNECTIONS"
  | databaseTimeout => "WARMIND_DATABASE_TIMEOUT_SECS"
  | apiKey => "WARMIND_REMOTE_API_KEY"
  | baseUrl => "WARMIND_REMOTE_BASE_URL"
  | localAddresses => "WARMIND_REMOTE_LOCAL_ADDRESSES"
  | localAddressesFile => "WARMIND_REMOTE_LOCAL_ADDRESSES_FILE"
  | maxAttempts => "WARMIND_REMOTE_MAX_ATTEMPTS"
  | backoff => "WARMIND_REMOTE_THROTTLE_BACKOFF_MS"
  | remoteTimeout => "WARMIND_REMOTE_REQUEST_TIMEOUT_SECS"
  | bindAddress => "WARMIND_SERVER_BIND_ADDRESS"
  | port => "WARMIND_SERVER_PORT"
  | grace => "WARMIND_SERVER_GRACEFUL_SHUTDOWN_SECS"
  | logLevel => "WARMIND_LOGGING_LEVEL"
  | logFormat => "WARMIND_LOGGING_FORMAT"

/-- All variables that set a setting; the first one that is not blank counts. -/
def allVariables : SettingKey → List String
  | logLevel => [logLevel.mainVariable, "WARMIND_LOG_LEVEL"]
  | logFormat => [logFormat.mainVariable, "WARMIND_LOG_FORMAT"]
  | k => [k.mainVariable]

end SettingKey
end Armory
