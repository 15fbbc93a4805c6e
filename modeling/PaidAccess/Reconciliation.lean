import PaidAccess.Provider.Client
import PaidAccess.Delivery
import PaidAccess.Reset
import PaidAccess.Calendar.Months
/-!
Reconciliation: bringing a user's entitlement in line with the provider after an announcement. The
provider announces at least once and in no particular order, so what is stored is computed from the
state of the subscription and not from the announcement. Counters are reset before the entitlement is
saved: if saving fails, the old expiry is still there, and a redelivered event sees the new cycle.
-/

namespace PaidAccess.Reconciliation

open PaidAccess.Action

def label (event : ReconcileEvent) : String :=
  (present? event.subscriptionId).getD (if event.simulated then "(simulated)" else "(missing_id)")

def facts (event : ReconcileEvent) : Fields :=
  [("source", .text event.source.name), ("customer_id", .ofText? event.customerId),
    ("subscription_id", .text (label event)), ("user_ref", .ofText? event.userReference),
    ("simulated", .bool event.simulated)]

/-- An action on behalf of an event. A billing error is logged and passed on; any other failure is
logged and becomes one. -/
def guarded {α : Type} (bound : Fields) (event : ReconcileEvent) (action : Action α) : Action α :=
  recover action fun failure =>
    match failure with
    | .billing error => do
        log (.of .error "billing_reconcile_failed"
          (bound ++ [("error", .text error.message), ("error_kind", .text error.kind.name)]))
        fail failure
    | other => do
        log (.about .error "billing_reconcile_failed" bound other)
        refuse (.eventUnprocessed (label event))

/-- The user of an event. The customer of the event becomes the customer of the user. -/
def adoptCustomer (event : ReconcileEvent) (user : User) : Action User := do
  match present? event.customerId with
  | none => return user
  | some customer =>
      if user.customerId = .text customer then return user
      let _ ← assignCustomer user.id (.text customer)
      return { user with customerId := .text customer }

/-- The details of a simulated subscription: it starts now and lasts a month, or a year where the
price is charged yearly. -/
def simulatedDetails (event : ReconcileEvent) : Action SubscriptionDetails := do
  match present? event.simulatedPriceId with
  | none => refuse .simulatedPriceMissing
  | some priceId => do
      let price ← ProviderClient.retrievePrice (.text priceId)
      let start ← now
      let finish ← lift (start.addMonths (if price.interval = some "year" then 12 else 1))
      return { status := (present? event.simulatedStatus).getD "active", priceId := some price.id
               productId := some price.productId, periodStart := some start, periodEnd := some finish
               cancelAtPeriodEnd := false, subscription := none }

/-- The period of a subscription. Where access is granted, bounds that the subscription does not state
are taken from its latest invoice, and both must be known. -/
def period (subscription : ProviderSubscription) : Action (Option DateTime × Option DateTime) := do
  let stated := (subscription.periodStart, subscription.periodEnd)
  if StatusBucket.ofStatus subscription.status ≠ .entitled then return stated
  if stated.1.isSome && stated.2.isSome then return stated
  log (.of .warning "billing_period_from_latest_invoice" [("subscription_id", .text subscription.id)])
  let start := stated.1.or subscription.invoicePeriodStart
  let finish := stated.2.or subscription.invoicePeriodEnd
  if start.isSome && finish.isSome then return (start, finish)
  refuse (.periodIncomplete subscription.id start finish)

def details (event : ReconcileEvent) : Action SubscriptionDetails := do
  if event.simulated then simulatedDetails event
  else
    let subscription ← ProviderClient.retrieveSubscription (.ofText? event.subscriptionId)
    let (start, finish) ← period subscription
    return { status := subscription.status, priceId := subscription.priceId
             productId := subscription.productId, periodStart := start, periodEnd := finish
             cancelAtPeriodEnd := subscription.cancelAtPeriodEnd, subscription := some subscription }

structure Grant where
  productId : String
  priceId : String
  start : DateTime
  finish : DateTime

def grantOf (details : SubscriptionDetails) : Outcome Grant :=
  match present? details.productId, present? details.priceId, details.periodStart, details.periodEnd with
  | some productId, some priceId, some start, some finish => .ok ⟨productId, priceId, start, finish⟩
  | _, _, _, _ => .error (.billing (.subscriptionIncomplete details.productId details.priceId))

/-- The id of an event's subscription, or one made from the clock for a simulation without one. -/
def subscriptionIdOf (event : ReconcileEvent) (now : DateTime) : Outcome String :=
  match present? event.subscriptionId with
  | some id => .ok id
  | none => do
      let millis ← now.epochMillis
      return s!"sim_{millis}"

/-- Remarks on an expiry that is earlier than the one before. Nothing orders the announcements, so the
last one counts. -/
def remarkRegression (bound : Fields) (previous : Option Entitlement) (expiresAt : DateTime) :
    Action Unit := do
  match previous with
  | none => return ()
  | some previous => do
      if ← lift (expiresAt.before previous.expiresAt) then
        log (.of .warning "billing_expiry_regressed"
          (bound ++ [("previous_expires_at", .text previous.expiresAt.iso),
            ("expires_at", .text expiresAt.iso)]))

def payer (event : ReconcileEvent) (user : User) : Outcome (Option String) :=
  match present? event.customerId with
  | some customer => .ok (some customer)
  | none =>
      ((Checked.nullable Lenient.text user.customerId).within (.field "stripe_customer_id")).outcome

def activate (event : ReconcileEvent) (user : User) (details : SubscriptionDetails) (bound : Fields) :
    Action ReconciliationResult := do
  let grant ← lift (grantOf details)
  match ← findPlanByProduct grant.productId with
  | none => refuse (.productUnknown grant.productId)
  | some plan => do
      let subscriptionId ← lift (subscriptionIdOf event (← now))
      let previous ← findEntitlement user.id
      remarkRegression bound previous grant.finish
      let usageReset ← lift (resetsUsage .entitled
        { source := event.source, simulated := event.simulated, previous := previous
          planId := some plan.id, subscriptionId := some subscriptionId, cycleStart := some grant.start })
      if usageReset then
        let _ ← resetUsage user.id plan grant.start grant.finish
      let _ ← saveEntitlement
        { userId := user.id, planId := plan.id, expiresAt := grant.finish
          subscriptionId := subscriptionId, priceId := grant.priceId
          customerId := ← lift (payer event user)
          cancelAtPeriodEnd := details.cancelAtPeriodEnd, createdAt := none, updatedAt := none }
      log (.of .info "billing_access_granted"
        (bound ++ [("plan_id", .text plan.id), ("expires_at", .text grant.finish.iso),
          ("cancel_at_period_end", .bool details.cancelAtPeriodEnd),
          ("usage_reset", .bool usageReset)]))
      Delivery.notify user.id "subscription_updated"
        [("plan_id", .text plan.id), ("expires_at", .text grant.finish.iso)]
      return { user := some user, plan := some plan, subscription := details.subscription
               accessUpdated := true, usageReset := usageReset }

def deactivate (user : User) (details : SubscriptionDetails) (bound : Fields) :
    Action ReconciliationResult := do
  revoke user.id
  log (.of .info "billing_access_revoked" (bound ++ [("status", .text details.status)]))
  Delivery.notify user.id "subscription_removed" [("status", .text details.status)]
  return { user := some user, plan := none, subscription := details.subscription
           accessUpdated := true, usageReset := false }

def settle (event : ReconcileEvent) (user : User) (bound : Fields) : Action ReconciliationResult := do
  let user ← adoptCustomer event user
  let details ← details event
  match StatusBucket.ofStatus details.status with
  | .entitled => activate event user details bound
  | .revoked => deactivate user details bound
  | .unknown => do
      log (.of .warning "billing_status_unhandled" (bound ++ [("status", .text details.status)]))
      return { user := some user, plan := none, subscription := details.subscription
               accessUpdated := false, usageReset := false }

def skip (event : ReconcileEvent) (reason : String) : Action ReconciliationResult := do
  log (.of .warning "billing_reconcile_skipped" (facts event ++ [("reason", .text reason)]))
  return .skipped

/-- Applies an event. An event that names nobody, names no subscription or names an unknown user is
skipped. -/
def reconcile (event : ReconcileEvent) : Action ReconciliationResult := do
  log (.of .info "billing_reconcile_started" (facts event))
  if (present? event.customerId).isNone && (present? event.userReference).isNone then
    skip event "no customer id or user reference"
  else if (present? event.subscriptionId).isNone && !event.simulated then
    skip event "subscription id required"
  else
    match ← guarded (facts event) event (findUser event.customerId event.userReference) with
    | none => skip event "user not found"
    | some user =>
        let bound := facts event ++ [("user_id", .text user.id)]
        guarded bound event (settle event user bound)

def hasBeginning (start : String) (content : String) : Bool :=
  start.toList.isPrefixOf content.toList

def idText : Value → Outcome String
  | .text content => .ok content
  | _ => .error .noSuchMember

def renewalIds (subscription customer : Value) : Outcome (Option (String × String)) :=
  if subscription.truthy && customer.truthy then do
    let subscriptionId ← idText subscription
    if !hasBeginning "sub_" subscriptionId then return none
    let customerId ← idText customer
    if !hasBeginning "cus_" customerId then return none
    return some (subscriptionId, customerId)
  else .ok none

/-- Applies a paid invoice. An invoice that is not for a subscription is left alone. -/
def reconcileRenewal (invoice : Value) : Action (Option ReconciliationResult) := do
  let fields ← lift (Payload.record invoice)
  let invoiceId := fields.get "id"
  let subscription ← lift (Payload.invoiceSubscriptionId invoice)
  let customer ← lift (Payload.idOf (fields.get "customer"))
  let reference ← lift (Payload.metadataUserId fields)
  match ← lift (renewalIds subscription customer) with
  | none => do
      log (.of .warning "billing_renewal_skipped"
        [("invoice_id", invoiceId), ("subscription_id", subscription), ("customer_id", customer)])
      return none
  | some (subscriptionId, customerId) => do
      let reference ← lift
        ((Checked.nullable Lenient.text reference).within (.field "metadata_user_id")).outcome
      let result ← reconcile (.of .invoicePaid (some customerId) (some subscriptionId) reference)
      let facts : Fields := [("invoice_id", invoiceId), ("subscription_id", .text subscriptionId)]
      if result.accessUpdated then
        log (.of .info "billing_renewal_processed"
          (facts ++ [("usage_reset", .bool result.usageReset)]))
      else
        log (.of .warning "billing_renewal_not_applied" facts)
      return some result

def cancelledUser (customer reference : Value) : Action (Option User) :=
  if customer.truthy || reference.truthy then perform (.findUser customer reference) else pure none

/-- Applies a cancelled subscription and tells whether access was taken away. A user that is not known
is no error: the access may be found by the subscription, or may be gone already. -/
def reconcileCancellation (subscription : Value) : Action Bool := do
  let fields ← lift (Payload.record subscription)
  let id := fields.get "id"
  if !id.truthy || !hasBeginning "sub_" id.display then
    log (.of .error "billing_cancellation_invalid_id" [("subscription_id", id)])
    return false
  let customer ← lift (Payload.idOf (fields.get "customer"))
  let reference ← lift (Payload.metadataUserId fields)
  let bound : Fields :=
    [("subscription_id", id), ("customer_id", customer), ("metadata_user_id", reference)]
  match ← cancelledUser customer reference with
  | some user => do
      revoke user.id
      log (.of .info "billing_access_revoked" (bound ++ [("user_id", .text user.id)]))
      Delivery.notify user.id "subscription_removed" [("subscription_id", id)]
      return true
  | none => do
      log (.of .warning "billing_cancellation_user_missing" bound)
      match ← revokeSubscription id.display with
      | none => do
          log (.of .warning "billing_cancellation_no_entitlement" bound)
          return false
      | some owner => do
          revoke owner
          log (.of .warning "billing_access_revoked_by_subscription"
            (bound ++ [("user_id", .text owner)]))
          return true

end PaidAccess.Reconciliation
