import PaidAccess.Account
import PaidAccess.Plan
import PaidAccess.Entitlement
import PaidAccess.Usage
/-!
What a store of accounts, plans, entitlements and counters is asked for. An operation is data, and
every operation has its type of result, so that two stores can be compared on the same operations. What
is looked for is given as a value, as payloads may name anything; only a text names something. A point in
time may be missing, and what is spent may be anything: an operation objects only to what it uses.
-/

namespace PaidAccess

inductive StoreOp where
  /-- The user of a customer, else the user with an id. -/
  | findUser (customerId internalId : Value)
  | findUserByEmail (email : Value)
  /-- Records the provider's customer of a user. -/
  | assignCustomer (userId customerId : Value)
  | findPlanByProduct (productId : Value)
  | findPlan (planId : Value)
  | findEntitlement (userId : Value)
  /-- Inserts or replaces the entitlement of its user. -/
  | saveEntitlement (entitlement : Entitlement)
  /-- Sets the counters of a plan to zero for a cycle. -/
  | resetUsage (userId : Value) (plan : Plan) (start finish : Option DateTime)
  /-- The newest counter whose window holds a point in time. -/
  | findActiveUsage (userId : Value) (feature : FeatureKey) (time : Option DateTime)
  /-- Makes a counter at zero unless there is one. -/
  | openCounter (userId : Value) (feature : FeatureKey) (start finish : Option DateTime)
  /-- Adds to a counter unless that would exceed the limit. -/
  | spend (userId : Value) (feature : FeatureKey) (start : Option DateTime) (amount limit : Value)
  /-- The entitlements that have not expired. -/
  | activeEntitlements (time : Option DateTime)
  /-- Removes the entitlement and all counters of a user. -/
  | revoke (userId : Value)
  /-- Removes the entitlement of a subscription and tells whose it was. -/
  | revokeSubscription (subscriptionId : Value)

inductive StoreMethod where
  | findUser
  | findUserByEmail
  | assignCustomer
  | findPlanByProduct
  | findPlan
  | findEntitlement
  | saveEntitlement
  | resetUsage
  | findActiveUsage
  | openCounter
  | spend
  | activeEntitlements
  | revoke
  | revokeSubscription
  deriving DecidableEq

namespace StoreOp

abbrev Result : StoreOp → Type
  | .findUser .. => Option User
  | .findUserByEmail .. => Option User
  | .assignCustomer .. => Option User
  | .findPlanByProduct .. => Option Plan
  | .findPlan .. => Option Plan
  | .findEntitlement .. => Option Entitlement
  | .saveEntitlement .. => Entitlement
  | .resetUsage .. => List UsageCounter
  | .findActiveUsage .. => Option UsageCounter
  | .openCounter .. => UsageCounter
  | .spend .. => Option UsageCounter
  | .activeEntitlements .. => List Entitlement
  | .revoke .. => Unit
  | .revokeSubscription .. => Option String

def method : StoreOp → StoreMethod
  | .findUser .. => .findUser
  | .findUserByEmail .. => .findUserByEmail
  | .assignCustomer .. => .assignCustomer
  | .findPlanByProduct .. => .findPlanByProduct
  | .findPlan .. => .findPlan
  | .findEntitlement .. => .findEntitlement
  | .saveEntitlement .. => .saveEntitlement
  | .resetUsage .. => .resetUsage
  | .findActiveUsage .. => .findActiveUsage
  | .openCounter .. => .openCounter
  | .spend .. => .spend
  | .activeEntitlements .. => .activeEntitlements
  | .revoke .. => .revoke
  | .revokeSubscription .. => .revokeSubscription

end StoreOp

end PaidAccess
