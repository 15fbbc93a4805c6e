import PaidAccess.Reconciliation
/-!
Sending users to the provider's pages: to the checkout, or to the portal when they already hold
access. Outside production a checkout can be completed by a simulated activation after a delay. Callers
name users and prices by values; the store and the provider decide what these stand for.
-/

namespace PaidAccess.Checkout

open PaidAccess.Action

def resolveUser (userId email : Value) : Action (Option User) := do
  let byId ← if userId.truthy then perform (.findUser .null userId) else pure none
  match byId with
  | some user => return some user
  | none => if email.truthy then perform (.findUserByEmail email) else return none

def adopt (user : Option User) (customerId : String) : Action Unit := do
  match user with
  | some user =>
      let _ ← assignCustomer user.id (.text customerId)
      return ()
  | none => return ()

/-- The id of the user that a request is for: that of the user found, else the one that it names. -/
def referenceOf (user : Option User) (userId : Value) : Value :=
  match user with
  | some user => .text user.id
  | none => userId

/-- The customer that pays: the user's own, else one that the provider has for the email, else a new
one. Without an email there is none, which is null. -/
def resolveCustomer (user : Option User) (userId email : Value) : Action Value := do
  match user.bind User.customer?, email.truthy with
  | some customer, _ => return customer
  | none, false => return .null
  | none, true => do
      match ← ProviderClient.listCustomers email with
      | existing :: _ => do
          adopt user existing
          return .text existing
      | [] => do
          let created ← ProviderClient.createCustomer email (.ofText? (user.bind (·.fullName)))
            (.record (Fields.ofTruthy "user_id" (referenceOf user userId)))
          adopt user created
          return .text created

def hasActiveEntitlement (userId : String) : Action Bool := do
  match ← findEntitlement userId with
  | none => return false
  | some entitlement => do
      let current ← lift ((← now).before entitlement.expiresAt)
      return current && !entitlement.cancelAtPeriodEnd

def present (kind : SessionKind) (session : ProviderSession) : Outcome SessionResult :=
  ((fun url id => ({ url := url, kind := kind, sessionId := id } : SessionResult))
    <$> (Checked.nullable Lenient.text session.url).within (.field "url")
    <*> (Checked.nullable Lenient.text session.id).within (.field "session_id")).outcome

def schedule (sessionId priceId customerId userId : Value) : Action Unit := do
  let config ← read (·.deployment.billing)
  log (.of .warning "billing_simulation_scheduled"
    [("session_id", sessionId), ("delay_seconds", .real config.simulationDelay)])
  update fun service => { service with simulations := service.simulations ++
    [{ sessionId := sessionId, priceId := priceId, customerId := customerId, userId := userId
       context := service.context }] }

def openPortal (user : User) (customerId : Value) (bound : Fields) : Action SessionResult := do
  log (.of .info "billing_redirect_to_portal"
    (bound ++ [("user_id", .text user.id), ("customer_id", customerId)]))
  let session ← ProviderClient.createPortal customerId .null
  lift (present .portal session)

def checkPrice (priceId : Value) (bound : Fields) : Action Unit :=
  recover
    (do
      let _ ← ProviderClient.retrievePrice priceId
      return ())
    fun failure =>
      match failure with
      | .billing error => do
          log (.of .warning "billing_price_invalid" (bound ++ [("error", .text error.message)]))
          refuse .planInvalid
      | other => fail other

def openCheckout (priceId customerId email reference : Value) (bound : Fields) :
    Action SessionResult := do
  checkPrice priceId bound
  let session ← ProviderClient.createCheckout priceId customerId email reference .null .null
  log (.of .info "billing_checkout_created"
    (bound ++ [("session_id", session.id), ("customer_id", customerId)]))
  let config ← read (·.deployment.billing)
  if config.simulationEnabled && session.id.truthy then
    schedule session.id priceId customerId reference
  lift (present .checkout session)

def isSubscribed (user : Option User) : Action Bool :=
  match user with
  | some user => hasActiveEntitlement user.id
  | none => pure false

/-- Opens the portal for a subscriber and a checkout for anyone else. -/
def start (priceId email userId : Value) : Action SessionResult := do
  let caller := userId.orElse (email.orElse (.text "guest"))
  let bound : Fields := [("price_id", priceId), ("user_ref", caller)]
  log (.of .info "billing_session_requested" bound)
  let user ← resolveUser userId email
  let customerId ← resolveCustomer user userId email
  if !customerId.truthy then refuse .customerUnresolved
  match user, ← isSubscribed user with
  | some user, true => openPortal user customerId bound
  | user, _ => openCheckout priceId customerId email (referenceOf user userId) bound

def portalFor (userId : Value) : Action SessionResult := do
  match (← perform (.findUser .null userId)).bind User.customer? with
  | none => do
      log (.of .warning "billing_portal_customer_missing" [("user_id", userId)])
      refuse .billingAccountMissing
  | some customerId => do
      let session ← ProviderClient.createPortal customerId .null
      log (.of .info "billing_portal_created"
        [("user_id", userId), ("customer_id", customerId)])
      lift (present .portal session)

/-- The amount of a counter, none being zero. Only a whole amount is reported. -/
def creditsUsed (counter : Option UsageCounter) : Outcome Int :=
  match counter with
  | none => .ok 0
  | some counter => ((Lenient.integer counter.used.toValue).within (.field "ai_credits_used")).outcome

def info (userId : Value) : Action SubscriptionInfo := do
  match ← perform (.findEntitlement userId) with
  | none => refuse .subscriptionMissing
  | some entitlement => do
      let plan ← findPlan entitlement.planId
      let counter ← perform (.findActiveUsage userId .aiCredits (some (← now)))
      return { planId := entitlement.planId, expiresAt := entitlement.expiresAt
               cancelAtPeriodEnd := entitlement.cancelAtPeriodEnd
               creditsUsed := ← lift (creditsUsed counter)
               dailyCredits := plan.bind (·.dailyCredits)
               storageMegabytes := plan.bind (·.storageMegabytes)
               createdAt := entitlement.createdAt }

/-- The event of a simulated activation, which completes a checkout with a subscription made from the
clock. What the checkout was for must be texts here. -/
def simulatedEvent (simulation : Simulation) (now : DateTime) : Outcome ReconcileEvent := do
  let millis ← now.epochMillis
  (ReconcileEvent.ofValue (.record
    [("source", .text EventSource.checkoutCompleted.name), ("customer_id", simulation.customerId),
      ("subscription_id", .text s!"sub_sim_{millis}"), ("client_reference_id", simulation.userId),
      ("metadata_user_id", simulation.userId), ("simulated", .bool true),
      ("simulated_price_id", simulation.priceId), ("simulated_status", .text "active")])).outcome

def simulate (simulation : Simulation) : Action Unit := do
  let bound : Fields :=
    [("session_id", simulation.sessionId), ("price_id", simulation.priceId),
      ("customer_id", simulation.customerId)]
  recover
    (do
      let event ← lift (simulatedEvent simulation (← now))
      let result ← Reconciliation.reconcile event
      log (.of .info "billing_simulation_completed"
        (bound ++ [("access_updated", .bool result.accessUpdated)])))
    fun failure => log (.about .error "billing_simulation_failed" bound failure)

/-- Carries out simulated activations one after the other, each in the log context of the request that
scheduled it. -/
def simulateAll : List Simulation → Action Unit
  | [] => pure ()
  | simulation :: rest => do
      update fun service => { service with context := simulation.context }
      simulate simulation
      simulateAll rest

/-- Releases the waiting activations and tells how long each asked to wait. -/
def runSimulations : Action (List Binary64) := do
  let waiting ← read (·.simulations)
  let delay ← read (·.deployment.billing.simulationDelay)
  let context ← read (·.context)
  update fun service => { service with simulations := [] }
  simulateAll waiting
  update fun service => { service with context := context }
  return waiting.map fun _ => delay

end PaidAccess.Checkout
