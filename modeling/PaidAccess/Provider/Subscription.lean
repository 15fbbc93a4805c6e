import PaidAccess.Validation.Lenient
/-!
Subscriptions and prices of the payment provider in normal form.
-/

namespace PaidAccess

open Checked Lenient

/-- A subscription at the provider. A period may be stated by the subscription or by its latest
invoice. -/
structure ProviderSubscription where
  id : String
  customerId : Option String
  status : String
  cancelAtPeriodEnd : Bool
  priceId : Option String
  productId : Option String
  periodStart : Option DateTime
  periodEnd : Option DateTime
  invoicePeriodStart : Option DateTime
  invoicePeriodEnd : Option DateTime
  metadata : List (String × String)
  deriving DecidableEq

namespace ProviderSubscription

def ofValue : Value → Checked ProviderSubscription :=
  model fun row =>
    ProviderSubscription.mk <$> required "id" text row
      <*> optional "customer_id" text row
      <*> required "status" text row
      <*> defaulted "cancel_at_period_end" false flag row
      <*> optional "price_id" text row
      <*> optional "product_id" text row
      <*> optional "current_period_start" time row
      <*> optional "current_period_end" time row
      <*> optional "latest_invoice_period_start" time row
      <*> optional "latest_invoice_period_end" time row
      <*> defaulted "metadata" [] (dictionary text) row

def toValue (stamp : DateTime → String) (subscription : ProviderSubscription) : Value :=
  .record [("id", .text subscription.id), ("customer_id", .ofText? subscription.customerId),
    ("status", .text subscription.status),
    ("cancel_at_period_end", .bool subscription.cancelAtPeriodEnd),
    ("price_id", .ofText? subscription.priceId), ("product_id", .ofText? subscription.productId),
    ("current_period_start", .ofText? (subscription.periodStart.map stamp)),
    ("current_period_end", .ofText? (subscription.periodEnd.map stamp)),
    ("latest_invoice_period_start", .ofText? (subscription.invoicePeriodStart.map stamp)),
    ("latest_invoice_period_end", .ofText? (subscription.invoicePeriodEnd.map stamp)),
    ("metadata", .record (subscription.metadata.map fun field => (field.1, .text field.2)))]

end ProviderSubscription

structure ProviderPrice where
  id : String
  productId : String
  /-- How often the price is charged. -/
  interval : Option String
  deriving DecidableEq

namespace ProviderPrice

def ofValue : Value → Checked ProviderPrice :=
  model fun row =>
    ProviderPrice.mk <$> required "id" text row
      <*> required "product_id" text row
      <*> optional "recurring_interval" text row

def toValue (price : ProviderPrice) : Value :=
  .record [("id", .text price.id), ("product_id", .text price.productId),
    ("recurring_interval", .ofText? price.interval)]

end ProviderPrice

end PaidAccess
