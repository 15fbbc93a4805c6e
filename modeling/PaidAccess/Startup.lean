import PaidAccess.Schedule
/-!
Starting the service from its settings. Parts whose settings are missing are left out, and the endpoints
that need them refuse; the service starts without them.
-/

namespace PaidAccess

def Settings.namesBackend (settings : Settings) : Bool :=
  settings.backendUrl != "" && settings.backendKey != ""

def Settings.namesProvider (settings : Settings) : Bool := settings.provider.secretKey != ""

def Settings.dailyJob? (settings : Settings) : Option DailyJob :=
  if settings.billing.dailyResetEnabled then some (.atHour settings.billing.dailyResetHour.toNat)
  else none

namespace Startup

/-- Whether the identity and storage service is in use: it is named and the attempt to connect to it
succeeded. -/
def isConnected (settings : Settings) (attempt : Outcome Unit) : Bool :=
  match attempt with
  | .ok _ => settings.namesBackend
  | .error _ => false

def backendEntries (settings : Settings) (attempt : Outcome Unit) : List LogEntry :=
  let outcome :=
    if settings.namesBackend then
      match attempt with
      | .ok _ => LogEntry.of .info "supabase_configured" []
      | .error failure => .about .warning "supabase_init_failed" [] failure
    else .of .warning "supabase_not_configured" [("detail", .text "Auth endpoints will return 503")]
  if isConnected settings attempt then [outcome]
  else
    [outcome, .of .warning "entitlement_store_in_memory"
      [("detail", .text "Entitlements are not persisted")]]

def configEntries (config : ProviderConfig) : List LogEntry :=
  if config.webhookSecret = "" then
    [.of .warning "stripe_webhook_secret_missing"
      [("detail", .text "Real webhooks will fail verification")]]
  else []

def providerEntries (settings : Settings) : List LogEntry :=
  if settings.namesProvider then
    configEntries settings.provider ++ [.of .info "stripe_configured" []]
  else
    [.of .warning "stripe_not_configured" [("detail", .text "Billing endpoints will return 503")]]

def jobEntry (hour : Int) : LogEntry :=
  .of .info "billing_scheduler_configured" [("job_id", .text DailyJob.id), ("hour_utc", .int hour)]

def jobEntries (settings : Settings) : List LogEntry :=
  if settings.dailyJob?.isSome then
    [jobEntry settings.billing.dailyResetHour, .of .info "billing_scheduler_started" []]
  else []

def entries (settings : Settings) (attempt : Outcome Unit) : List LogEntry :=
  [.of .info "api_startup"
    [("cors_origins", .texts settings.corsOrigins), ("environment", .text settings.billing.environment),
      ("simulation_enabled", .bool settings.billing.simulationEnabled)]]
    ++ backendEntries settings attempt ++ providerEntries settings ++ jobEntries settings
    ++ [.of .info "services_initialized" []]

def shutdownEntry : LogEntry := .of .info "api_shutdown" []

/-- How the settings set the service up. Which origins may call is not decided by a start but once, when
the service is made. -/
def deployment (settings : Settings) (origins : List String) (connected : Bool)
    (tokens : OrderedMap String TokenReply) : Deployment where
  provider := settings.provider
  billing := settings.billing
  tolerance := settings.billing.webhookTolerance
  origins := origins
  tokens := tokens
  available :=
    { identity := connected, registry := true, provider := settings.namesProvider
      billing := settings.namesProvider, usage := true }
  notifier := .registry

def idle (deployment : Deployment) (now : DateTime) (store : Store) (provider : Provider) : Service where
  deployment := deployment
  now := now
  store := store
  provider := provider
  faults := fun _ => []
  registry := .empty
  links := .whole
  sockets := ∅
  socketsOpened := 0
  simulations := []
  context := []
  journal := .empty

def service (settings : Settings) (origins : List String) (attempt : Outcome Unit)
    (tokens : OrderedMap String TokenReply) (now : DateTime) (provider : Provider) : Service :=
  let connected := isConnected settings attempt
  let store := if connected then Store.remote .standard ∅ else .memory .empty
  (entries settings attempt).foldl Service.logged
    (idle (deployment settings origins connected tokens) now store provider)

end Startup

end PaidAccess
