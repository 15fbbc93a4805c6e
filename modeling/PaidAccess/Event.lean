import PaidAccess.Account
import PaidAccess.Plan
import PaidAccess.Provider.Subscription
/-!
Billing events: what the provider announced about a subscription, what is known about that
subscription, and what came of it.
-/

namespace PaidAccess

open Checked Lenient

inductive EventSource where
  | checkoutCompleted
  | invoicePaid
  | subscriptionUpdated
  | subscriptionDeleted
  deriving DecidableEq

namespace EventSource

def name : EventSource → String
  | .checkoutCompleted => "checkout.session.completed"
  | .invoicePaid => "invoice.paid"
  | .subscriptionUpdated => "customer.subscription.updated"
  | .subscriptionDeleted => "customer.subscription.deleted"

def ofName? (name : String) : Option EventSource :=
  if name = "checkout.session.completed" then some .checkoutCompleted
  else if name = "invoice.paid" then some .invoicePaid
  else if name = "customer.subscription.updated" then some .subscriptionUpdated
  else if name = "customer.subscription.deleted" then some .subscriptionDeleted
  else none

def ofValue : Value → Checked EventSource := Lenient.named ofName? .enumValue

end EventSource

/-- What a subscription's status means for access. -/
inductive StatusBucket where
  | entitled
  | revoked
  | unknown
  deriving DecidableEq

namespace StatusBucket

def name : StatusBucket → String
  | .entitled => "entitled"
  | .revoked => "revoked"
  | .unknown => "unknown"

def ofName? (name : String) : Option StatusBucket :=
  if name = "entitled" then some .entitled
  else if name = "revoked" then some .revoked
  else if name = "unknown" then some .unknown
  else none

def entitledStatuses : List String := ["active", "trialing"]

def revokedStatuses : List String := ["canceled", "unpaid", "incomplete_expired", "past_due"]

/-- The bucket of a status; a status of neither list changes nothing. -/
def ofStatus (status : String) : StatusBucket :=
  if status ∈ entitledStatuses then .entitled
  else if status ∈ revokedStatuses then .revoked
  else .unknown

end StatusBucket

/-- An announcement in normal form, or a simulated one. -/
structure ReconcileEvent where
  source : EventSource
  customerId : Option String
  subscriptionId : Option String
  clientReferenceId : Option String
  metadataUserId : Option String
  simulated : Bool
  simulatedPriceId : Option String
  simulatedStatus : Option String
  deriving DecidableEq

namespace ReconcileEvent

/-- The user the event names: by the checkout's reference, else by the metadata. -/
def userReference (event : ReconcileEvent) : Option String :=
  orElseText event.clientReferenceId event.metadataUserId

def of (source : EventSource) (customerId subscriptionId metadataUserId : Option String) :
    ReconcileEvent :=
  ⟨source, customerId, subscriptionId, none, metadataUserId, false, none, none⟩

def ofValue : Value → Checked ReconcileEvent :=
  model fun row =>
    ReconcileEvent.mk <$> required "source" EventSource.ofValue row
      <*> optional "customer_id" text row
      <*> optional "subscription_id" text row
      <*> optional "client_reference_id" text row
      <*> optional "metadata_user_id" text row
      <*> defaulted "simulated" false flag row
      <*> optional "simulated_price_id" text row
      <*> optional "simulated_status" text row

def toValue (event : ReconcileEvent) : Value :=
  .record [("source", .text event.source.name), ("customer_id", .ofText? event.customerId),
    ("subscription_id", .ofText? event.subscriptionId),
    ("client_reference_id", .ofText? event.clientReferenceId),
    ("metadata_user_id", .ofText? event.metadataUserId), ("simulated", .bool event.simulated),
    ("simulated_price_id", .ofText? event.simulatedPriceId),
    ("simulated_status", .ofText? event.simulatedStatus)]

end ReconcileEvent

structure SubscriptionDetails where
  status : String
  priceId : Option String
  productId : Option String
  periodStart : Option DateTime
  periodEnd : Option DateTime
  cancelAtPeriodEnd : Bool
  subscription : Option ProviderSubscription
  deriving DecidableEq

namespace SubscriptionDetails

def ofValue : Value → Checked SubscriptionDetails :=
  model fun row =>
    SubscriptionDetails.mk <$> required "status" text row
      <*> optional "price_id" text row
      <*> optional "product_id" text row
      <*> optional "period_start" time row
      <*> optional "period_end" time row
      <*> defaulted "cancel_at_period_end" false flag row
      <*> optional "subscription" ProviderSubscription.ofValue row

def toValue (stamp : DateTime → String) (details : SubscriptionDetails) : Value :=
  .record [("status", .text details.status), ("price_id", .ofText? details.priceId),
    ("product_id", .ofText? details.productId),
    ("period_start", .ofText? (details.periodStart.map stamp)),
    ("period_end", .ofText? (details.periodEnd.map stamp)),
    ("cancel_at_period_end", .bool details.cancelAtPeriodEnd),
    ("subscription", .ofOption (·.toValue stamp) details.subscription)]

end SubscriptionDetails

/-- What came of an event. Access that was not updated is no error. -/
structure ReconciliationResult where
  user : Option User
  plan : Option Plan
  subscription : Option ProviderSubscription
  accessUpdated : Bool
  usageReset : Bool
  deriving DecidableEq

namespace ReconciliationResult

def skipped : ReconciliationResult := ⟨none, none, none, false, false⟩

def ofValue : Value → Checked ReconciliationResult :=
  model fun row =>
    ReconciliationResult.mk <$> optional "user" User.ofValue row
      <*> optional "plan" Plan.ofValue row
      <*> optional "subscription" ProviderSubscription.ofValue row
      <*> defaulted "access_updated" false flag row
      <*> defaulted "usage_reset" false flag row

def toValue (stamp : DateTime → String) (result : ReconciliationResult) : Value :=
  .record [("user", .ofOption (·.toValue) result.user), ("plan", .ofOption (·.toValue) result.plan),
    ("subscription", .ofOption (·.toValue stamp) result.subscription),
    ("access_updated", .bool result.accessUpdated), ("usage_reset", .bool result.usageReset)]

end ReconciliationResult

end PaidAccess
