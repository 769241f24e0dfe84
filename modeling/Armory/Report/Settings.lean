import Armory.Json.Value
import Armory.Settings

/-! The JSON form of settings. -/
namespace Armory

/-- The settings of the database, as JSON. -/
def DatabaseSettings.toJson (s : DatabaseSettings) : Json :=
  .record [("url", .text s.url), ("max_connections", .nat s.maxConnections),
    ("timeout_secs", .nat s.timeoutSeconds)]

/-- The settings of the link, as JSON. -/
def RemoteSettings.toJson (s : RemoteSettings) : Json :=
  .record [("api_key", .text s.apiKey), ("base_url", .text s.baseUrl),
    ("local_addresses", Json.list .text s.localAddresses),
    ("local_addresses_file", .text s.localAddressesFile), ("max_attempts", .nat s.maxAttempts),
    ("throttle_backoff_ms", .nat s.backoffMillis), ("request_timeout_secs", .nat s.timeoutSeconds)]

/-- The settings of the server, as JSON. -/
def ServerSettings.toJson (s : ServerSettings) : Json :=
  .record [("bind_address", .text s.bindAddress), ("port", .nat s.port),
    ("graceful_shutdown_secs", .nat s.graceSeconds)]

/-- The settings of the log, as JSON. -/
def LoggingSettings.toJson (s : LoggingSettings) : Json :=
  .record [("level", .text s.level), ("format", .text s.format.name)]

/-- All settings, as JSON. -/
def Settings.toJson (s : Settings) : Json :=
  .record [("database", s.database.toJson), ("remote", s.remote.toJson), ("server", s.server.toJson),
    ("logging", s.logging.toJson)]

end Armory
