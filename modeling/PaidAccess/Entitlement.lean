import PaidAccess.Validation.Lenient
/-!
Entitlements: the paid access that a user holds, of which there is at most one per user.
-/

namespace PaidAccess

open Checked Lenient

/-- A grant of paid access up to an expiry. -/
structure Entitlement where
  userId : String
  planId : String
  expiresAt : DateTime
  subscriptionId : String
  priceId : String
  customerId : Option String
  cancelAtPeriodEnd : Bool
  createdAt : Option DateTime
  updatedAt : Option DateTime
  deriving DecidableEq

namespace Entitlement

def ofValue : Value → Checked Entitlement :=
  model fun row =>
    Entitlement.mk <$> required "user_id" text row
      <*> required "plan_id" text row
      <*> required "expires_at" time row
      <*> required "stripe_subscription_id" text row
      <*> required "stripe_price_id" text row
      <*> optional "stripe_customer_id" text row
      <*> defaulted "cancel_at_period_end" false flag row
      <*> optional "created_at" time row
      <*> optional "updated_at" time row

def toFields (stamp : DateTime → String) (entitlement : Entitlement) : Fields :=
  [("user_id", .text entitlement.userId), ("plan_id", .text entitlement.planId),
    ("expires_at", .text (stamp entitlement.expiresAt)),
    ("stripe_subscription_id", .text entitlement.subscriptionId),
    ("stripe_price_id", .text entitlement.priceId),
    ("stripe_customer_id", .ofText? entitlement.customerId),
    ("cancel_at_period_end", .bool entitlement.cancelAtPeriodEnd),
    ("created_at", .ofText? (entitlement.createdAt.map stamp)),
    ("updated_at", .ofText? (entitlement.updatedAt.map stamp))]

def toValue (stamp : DateTime → String) (entitlement : Entitlement) : Value :=
  .record (entitlement.toFields stamp)

end Entitlement

end PaidAccess
