import PaidAccess.Validation.Lenient
/-!
Plans: what a product that is sold at the provider grants here.
-/

namespace PaidAccess

open Checked Lenient

/-- A plan. A quota that is absent means that the plan does not include the feature. -/
structure Plan where
  id : String
  /-- The provider's product that sells this plan. -/
  productId : String
  dailyCredits : Option Int
  storageMegabytes : Option Int
  deriving DecidableEq

namespace Plan

def ofValue : Value → Checked Plan :=
  model fun row =>
    Plan.mk <$> required "id" text row
      <*> required "stripe_product_id" text row
      <*> optional "daily_quota_credits" (integerFrom 0) row
      <*> optional "storage_quota_mb" (integerFrom 0) row

def toValue (plan : Plan) : Value :=
  .record [("id", .text plan.id), ("stripe_product_id", .text plan.productId),
    ("daily_quota_credits", .ofInt? plan.dailyCredits),
    ("storage_quota_mb", .ofInt? plan.storageMegabytes)]

end Plan

end PaidAccess
