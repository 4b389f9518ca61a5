import HouseholdAccess.Event.Polling
import HouseholdAccess.Http.Site
import HouseholdAccess.Settings

/-!
# The service

The service that answers for permissions: how it keeps them, whether it consumes
events, its site, and how it starts and stops. Starting goes from the store over
the cache to the broker, and stopping the other way round as far as the broker is
concerned; what fails on the way ends it.

`Service.ofSettings` makes the service that settings ask for.
-/

namespace HouseholdAccess

/-! ## Any service -/

namespace Settings

/-- The title of the site of a service. -/
def title (name : String) : String := LetterCase.titled name ++ " Service"

/-- What the site of a service is about. -/
def description (name : String) : String := "Household " ++ title name

/-- The least severity of log lines, in small letters. -/
def severityName (s : Settings) : String := LetterCase.lowercase s.logLevel

/-- Where the site explains itself, which it does only at home. -/
def documentation? (s : Settings) : Option (String × String) :=
  if s.environment = "local" then some ("/docs", "/redoc") else none

end Settings

/-- The service that answers for permissions. -/
structure Service where
  /-- How permissions are kept. -/
  cache : Cache := {}
  /-- Whether it consumes events. -/
  consumes : Bool := false

namespace Service

open HouseholdAccess.Flow

/-- The name of the service. -/
def name : String := "permissions"

/-- Where it listens if settings do not say. -/
def port : Int := 8012

/-- The service that settings ask for: any kind of cache that is not known is a local one. -/
def ofSettings (s : Settings) : Service where
  cache :=
    { kind := if s.cacheKind = sharedCacheName then .shared else .local, store := .database,
      timeToLive := s.timeToLive }
  consumes := s.consumesEvents

/-- The state of something that is well, or is not. -/
def stateOf (check : Flow Bool) : Flow Value := do
  let well ← check.recover fun _ => return false
  return .text (outcomeToken well)

/-- The state of what the service depends on. -/
def dependencies (s : Service) : Flow Entries := do
  let cache ← stateOf s.cache.kind.isHealthy
  let store ← stateOf s.cache.store.isHealthy
  let own := [("cache", cache), (databaseName, store)]
  if s.consumes then
    let consuming ← step .isConsuming
    return Entries.ofFields (own ++ [(brokerName, .text (outcomeToken consuming))])
  else return Entries.ofFields own

/-- The site of the service. -/
def site (s : Service) : Site where
  service := name
  cache := s.cache
  routes := Endpoint.commonRoutes ++ Endpoint.permissionRoutes
  dependencies := s.dependencies

/-- Starts the service, and says to which topics it has subscribed, if it consumes events. -/
def start (s : Service) : Flow (Option (List String)) := do
  s.cache.store.start
  s.cache.kind.start
  if s.consumes then
    Cache.subscribe EventType.topics
    step (.setConsuming true)
    return some EventType.topics
  else return none

/-- Stops the service. -/
def stop (s : Service) : Flow Unit := do
  if s.consumes then step (.setConsuming false)
  s.cache.kind.stop
  s.cache.store.stop

/-- Starts the service, answers a request, stops the service and answers the request again. -/
def lifespan (s : Service) (r : Http.Request) : Flow (Http.Response × Http.Response) := do
  let _ ← s.start
  let inside ← s.site.respond r
  s.stop
  let after ← s.site.respond r
  return (inside, after)

end Service

end HouseholdAccess
