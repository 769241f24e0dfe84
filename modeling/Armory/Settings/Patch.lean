import Armory.Settings

/-! Changes to settings. Every source of settings, a file, the variables or a caller, gives such a change, and
what it leaves out stays as it was. -/
namespace Armory.Settings

/-- New values for some settings. -/
structure Patch where
  databaseUrl : Option String := none
  maxConnections : Option Nat := none
  databaseTimeout : Option Nat := none
  apiKey : Option String := none
  baseUrl : Option String := none
  localAddresses : Option (List String) := none
  localAddressesFile : Option String := none
  maxAttempts : Option Nat := none
  backoff : Option Nat := none
  remoteTimeout : Option Nat := none
  bindAddress : Option String := none
  port : Option Nat := none
  grace : Option Nat := none
  logLevel : Option String := none
  logFormat : Option LogFormat := none
  deriving DecidableEq, Repr

/-- Settings after a change. -/
def change (s : Settings) (p : Patch) : Settings where
  database :=
    { url := p.databaseUrl.getD s.database.url
      maxConnections := p.maxConnections.getD s.database.maxConnections
      timeoutSeconds := p.databaseTimeout.getD s.database.timeoutSeconds }
  remote :=
    { apiKey := p.apiKey.getD s.remote.apiKey
      baseUrl := p.baseUrl.getD s.remote.baseUrl
      localAddresses := p.localAddresses.getD s.remote.localAddresses
      localAddressesFile := p.localAddressesFile.getD s.remote.localAddressesFile
      maxAttempts := p.maxAttempts.getD s.remote.maxAttempts
      backoffMillis := p.backoff.getD s.remote.backoffMillis
      timeoutSeconds := p.remoteTimeout.getD s.remote.timeoutSeconds }
  server :=
    { bindAddress := p.bindAddress.getD s.server.bindAddress
      port := p.port.getD s.server.port
      graceSeconds := p.grace.getD s.server.graceSeconds }
  logging :=
    { level := p.logLevel.getD s.logging.level
      format := p.logFormat.getD s.logging.format }

/-- A change of nothing changes nothing. -/
@[simp] theorem change_empty (s : Settings) : s.change {} = s := rfl

end Armory.Settings
