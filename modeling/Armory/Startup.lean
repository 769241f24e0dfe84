import Armory.Health
import Armory.Host.Connection
import Armory.Readiness

/-! Starting the service: its database is opened and brought up to date, a catalog is made of the definitions in
it, and a client is made for each outbound address. -/
namespace Armory

/-- A service that has been started. -/
structure Service.Started where
  settings : Settings
  database : Store.Database
  catalog : Catalog
  rotation : Wire.Rotation

namespace Startup

/-- Why a service could not be started. -/
inductive Failure where
  | settings (e : SettingsError)
  | connection (e : Store.ConnectError)
  | migration (text : String)
  | manifest (e : StoreError)
  deriving DecidableEq, Repr

/-- The wording of a failure. -/
def Failure.message : Failure → String
  | settings e => e.message
  | connection e => "database connection failed: " ++ e.message
  | migration text => "database migration failed: " ++ text
  | manifest e => "item manifest could not be loaded: " ++ e.message

/-- The catalog of stored definitions; those whose names say so are engrams. -/
def catalog (definitions : List Definition) : Catalog :=
  .ofSource (Catalog.Source.withNamedEngrams { definitions })

/-- The clients that settings ask for. -/
def rotation (h : Host) (s : Settings) : Wire.Rotation :=
  .ofAddresses s.remote.localAddresses (Readiness.addressFile? h s) s.remote.baseUrl
    (.ofSettings s.remote.maxAttempts s.remote.backoffMillis)

/-- A service started with given settings, or why it could not be. -/
def withSettings (h : Host) (s : Settings) : Except Failure Service.Started := do
  let c ← (h.connect s.database.url).mapError .connection
  let c ← c.migrate.mapError .migration
  let definitions ← c.database.loadDefinitions.mapError .manifest
  pure { settings := s, database := c.database, catalog := catalog definitions, rotation := rotation h s }

/-- A service started on a host, or why it could not be. -/
def run (h : Host) (r : Settings.Request) : Except Failure Service.Started := do
  withSettings h (← (Settings.load h r).mapError .settings)

end Startup

/-- The health of a service that has been started. -/
def Service.Started.health (s : Service.Started) : Health :=
  .ofDatabase s.database s.catalog.definitionCount s.rotation.clients.length

end Armory
