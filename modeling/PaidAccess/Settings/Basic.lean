import PaidAccess.Failure
import PaidAccess.Validation.Lenient
import PaidAccess.Event
/-!
The settings of a deployment: access to the provider, how billing behaves, and the surroundings.
-/

namespace PaidAccess

open Checked Lenient

structure ProviderConfig where
  secretKey : String
  webhookSecret : String
  artistMonthly : String
  artistYearly : String
  studioMonthly : String
  studioYearly : String
  frontendUrl : String
  checkoutSuccessUrl : Option String
  checkoutCancelUrl : Option String
  portalReturnUrl : Option String
  deriving DecidableEq

namespace ProviderConfig

def ofValue : Value → Checked ProviderConfig :=
  model fun row =>
    ProviderConfig.mk <$> defaulted "secret_key" "" text row
      <*> defaulted "webhook_secret" "" text row
      <*> defaulted "price_artist_monthly" "" text row
      <*> defaulted "price_artist_yearly" "" text row
      <*> defaulted "price_studio_monthly" "" text row
      <*> defaulted "price_studio_yearly" "" text row
      <*> defaulted "frontend_url" "http://localhost:5173" text row
      <*> optional "checkout_success_url" text row
      <*> optional "checkout_cancel_url" text row
      <*> optional "portal_return_url" text row

def toValue (config : ProviderConfig) : Value :=
  .record [("secret_key", .text config.secretKey), ("webhook_secret", .text config.webhookSecret),
    ("price_artist_monthly", .text config.artistMonthly),
    ("price_artist_yearly", .text config.artistYearly),
    ("price_studio_monthly", .text config.studioMonthly),
    ("price_studio_yearly", .text config.studioYearly), ("frontend_url", .text config.frontendUrl),
    ("checkout_success_url", .ofText? config.checkoutSuccessUrl),
    ("checkout_cancel_url", .ofText? config.checkoutCancelUrl),
    ("portal_return_url", .ofText? config.portalReturnUrl)]

def successUrl (config : ProviderConfig) : String :=
  (present? config.checkoutSuccessUrl).getD config.frontendUrl

def cancelUrl (config : ProviderConfig) : String :=
  (present? config.checkoutCancelUrl).getD config.frontendUrl

def returnUrl (config : ProviderConfig) : String :=
  (present? config.portalReturnUrl).getD config.frontendUrl

def priceMapping (config : ProviderConfig) : List (String × String) :=
  [("artist_monthly", config.artistMonthly), ("artist_yearly", config.artistYearly),
    ("studio_monthly", config.studioMonthly), ("studio_yearly", config.studioYearly)]

/-- The price of a plan key, unless the key is unknown or no price is configured for it. -/
def priceOf? (config : ProviderConfig) (planKey : String) : Option String :=
  present? (config.priceMapping.lookup planKey)

def usable (config : ProviderConfig) : Outcome ProviderConfig :=
  if config.secretKey = "" then .error (.rejected "Stripe secret key is required") else .ok config

end ProviderConfig

structure BillingConfig where
  environment : String
  /-- Whether a checkout is completed locally, without the provider's announcement. -/
  runSimulation : Bool
  simulationDelay : Binary64
  webhookTolerance : Int
  dailyResetEnabled : Bool
  dailyResetHour : Int
  deriving DecidableEq

namespace BillingConfig

def ofValue : Value → Checked BillingConfig :=
  model fun row =>
    BillingConfig.mk <$> defaulted "environment" "development" text row
      <*> defaulted "run_stripe_simulation" false flag row
      <*> defaulted "simulation_delay_seconds" (Binary64.ofInt 4) real row
      <*> defaulted "webhook_tolerance_seconds" 300 integer row
      <*> defaulted "daily_reset_enabled" true flag row
      <*> defaulted "daily_reset_hour_utc" 0 (integerWithin 0 23) row

def toFields (config : BillingConfig) : Fields :=
  [("environment", .text config.environment), ("run_stripe_simulation", .bool config.runSimulation),
    ("simulation_delay_seconds", .real config.simulationDelay),
    ("webhook_tolerance_seconds", .int config.webhookTolerance),
    ("daily_reset_enabled", .bool config.dailyResetEnabled),
    ("daily_reset_hour_utc", .int config.dailyResetHour)]

/-- Whether this is the production deployment. No character beyond ASCII has an ASCII letter of the
word as its lower case, so the ASCII lower case decides. -/
def isProduction (config : BillingConfig) : Bool := config.environment.toLower == "production"

/-- Whether checkouts are completed locally, which never happens in production. -/
def simulationEnabled (config : BillingConfig) : Bool := !config.isProduction && config.runSimulation

end BillingConfig

structure Settings where
  /-- Address and key of the identity and storage service; empty when there is none. -/
  backendUrl : String
  backendKey : String
  debug : Bool
  corsOrigins : List String
  provider : ProviderConfig
  billing : BillingConfig
  deriving DecidableEq

namespace Settings

def defaultOrigins : List String := ["http://localhost:5173"]

def group (name : String) (row : Fields) : Value := (row.find? name).getD (.record [])

def ofFields (row : Fields) : Checked Settings :=
  Settings.mk <$> defaulted "supabase_url" "" text row
    <*> defaulted "supabase_secret_key" "" text row
    <*> defaulted "debug" false flag row
    <*> defaulted "cors_origins" defaultOrigins (Checked.list text) row
    <*> (ProviderConfig.ofValue (group "stripe" row)).within (.field "stripe")
    <*> (BillingConfig.ofValue (group "billing" row)).within (.field "billing")

def toValue (settings : Settings) : Value :=
  .record [("supabase_url", .text settings.backendUrl),
    ("supabase_secret_key", .text settings.backendKey), ("debug", .bool settings.debug),
    ("cors_origins", .texts settings.corsOrigins), ("stripe", settings.provider.toValue),
    ("billing", .record settings.billing.toFields)]

end Settings

end PaidAccess
