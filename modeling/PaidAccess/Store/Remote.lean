import PaidAccess.Store.Operation
import PaidAccess.Store.Query
import PaidAccess.Usage.Windows
/-!
The store in a table service. Every operation is a program that asks queries. Removing the access of a
user and spending are stored procedures, so that each is a single step of the service.
-/

namespace PaidAccess

structure RemoteStore where
  users : String
  plans : String
  entitlements : String
  usage : String
  revokeProcedure : String
  spendProcedure : String

namespace RemoteStore

def standard : RemoteStore :=
  ⟨"users", "plans", "user_access", "user_usage", "delete_user_access_and_usage", "consume_user_usage"⟩

def usageColumns : String := "user_id,feature_key,cycle_started_at"

def firstRow (table column : String) (value : Value) : Dialogue (Option Value) := do
  let rows ← Dialogue.rows (.table table [.select, .eq column value, .limit 1])
  return rows.head?.filter (·.truthy)

def readRow {α : Type} (read : Value → Checked α) : Option Value → Dialogue (Option α)
  | none => pure none
  | some row => do
      let value ← Dialogue.lift (read row).outcome
      return some value

def findRow {α : Type} (read : Value → Checked α) (table column : String) (value : Value) :
    Dialogue (Option α) := do
  let row ← firstRow table column value
  readRow read row

def findUser (store : RemoteStore) (customerId internalId : Value) : Dialogue (Option User) := do
  let owner ←
    if customerId.truthy then findRow User.ofValue store.users "stripe_customer_id" customerId
    else pure none
  match owner with
  | some user => return some user
  | none =>
      if !internalId.truthy then return none
      if customerId.truthy then
        Dialogue.note (.of .warning "billing_user_lookup_fallback"
          [("customer_id", customerId), ("internal_id", internalId)])
      findRow User.ofValue store.users "id" internalId

def assignCustomer (store : RemoteStore) (userId customerId : Value) : Dialogue (Option User) := do
  Dialogue.note (.of .warning "billing_customer_id_updated"
    [("user_id", userId), ("customer_id", customerId)])
  let rows ← Dialogue.rows (.table store.users
    [.update [("stripe_customer_id", customerId)], .eq "id" userId])
  readRow User.ofValue rows.head?

/-- The row that an entitlement is saved as: without the time of its creation, which the service keeps,
and updated now. -/
def entitlementRow (now : DateTime) (entitlement : Entitlement) : Fields :=
  ((entitlement.toFields DateTime.wire).erase "created_at").set "updated_at" (.text now.iso)

def saveEntitlement (store : RemoteStore) (now : DateTime) (entitlement : Entitlement) :
    Dialogue Entitlement := do
  Dialogue.note (.of .info "billing_entitlement_upsert"
    [("user_id", .text entitlement.userId), ("plan_id", .text entitlement.planId),
      ("expires_at", .text entitlement.expiresAt.wire),
      ("cancel_at_period_end", .bool entitlement.cancelAtPeriodEnd)])
  let rows ← Dialogue.rows (.table store.entitlements
    [.upsert (.record (entitlementRow now entitlement)) "user_id" false])
  let saved ← readRow Entitlement.ofValue rows.head?
  return saved.getD entitlement

def resetUsage (store : RemoteStore) (now : DateTime) (userId : Value) (plan : Plan)
    (start finish : Option DateTime) : Dialogue (List UsageCounter) := do
  let counters ← Dialogue.lift (plan.freshCounters userId start finish now)
  if counters.isEmpty then return []
  let _ ← Dialogue.rows (.table store.usage
    [.upsert (.list (counters.map (·.toValue DateTime.wire))) usageColumns false])
  return counters

def stamp : Option DateTime → Dialogue Value
  | some time => pure (.text time.iso)
  | none => Dialogue.lift (.error .noSuchMember)

def findActiveUsage (store : RemoteStore) (userId : Value) (feature : FeatureKey)
    (time : Option DateTime) : Dialogue (Option UsageCounter) := do
  let time ← stamp time
  let rows ← Dialogue.rows (.table store.usage
    [.select, .eq "user_id" userId, .eq "feature_key" (.text feature.name),
      .lte "cycle_started_at" time, .gt "cycle_ends_at" time, .order "cycle_started_at" true, .limit 1])
  readRow UsageCounter.ofValue rows.head?

def openCounter (store : RemoteStore) (userId : Value) (feature : FeatureKey)
    (start finish : Option DateTime) : Dialogue UsageCounter := do
  let counter ← Dialogue.lift (UsageCounter.opened userId feature start finish).outcome
  let _ ← Dialogue.rows (.table store.usage
    [.upsert (counter.toValue DateTime.wire) usageColumns true])
  let rows ← Dialogue.rows (.table store.usage
    [.select, .eq "user_id" userId, .eq "feature_key" (.text feature.name),
      .eq "cycle_started_at" (.text counter.start.iso), .limit 1])
  let found ← readRow UsageCounter.ofValue rows.head?
  return found.getD counter

def spend (store : RemoteStore) (userId : Value) (feature : FeatureKey) (start : Option DateTime)
    (amount limit : Value) : Dialogue (Option UsageCounter) := do
  let start ← stamp start
  let rows ← Dialogue.rows (.call store.spendProcedure
    [("target_user_id", userId), ("target_feature_key", .text feature.name),
      ("target_cycle_started_at", start), ("amount", amount), ("quota", limit)])
  readRow UsageCounter.ofValue rows.head?

def readRows {α : Type} (read : Value → Checked α) : List Value → Outcome (List α)
  | [] => .ok []
  | row :: rest => do
      let value ← (read row).outcome
      let values ← readRows read rest
      return value :: values

def activeEntitlements (store : RemoteStore) (time : Option DateTime) : Dialogue (List Entitlement) := do
  let rows ← Dialogue.rows (.table store.entitlements [.select, .gt "expires_at" (← stamp time)])
  Dialogue.lift (readRows Entitlement.ofValue rows)

def revoke (store : RemoteStore) (userId : Value) : Dialogue Unit := do
  let _ ← Dialogue.rows (.call store.revokeProcedure [("target_user_id", userId)])
  Dialogue.note (.of .info "billing_entitlement_and_usage_deleted" [("user_id", userId)])

def ownerOfRow : Value → Outcome String
  | .record row =>
      match Fields.find? "user_id" row with
      | some owner => .ok owner.display
      | none => .error .noSuchKey
  | _ => .error .mismatch

def revokeSubscription (store : RemoteStore) (subscriptionId : Value) : Dialogue (Option String) := do
  let rows ← Dialogue.rows (.table store.entitlements
    [.delete, .eq "stripe_subscription_id" subscriptionId])
  match rows.head? with
  | none =>
      Dialogue.note (.of .warning "billing_entitlement_not_found"
        [("subscription_id", subscriptionId)])
      return none
  | some row => do
      let owner ← Dialogue.lift (ownerOfRow row)
      return some owner

def program (now : DateTime) (store : RemoteStore) : (op : StoreOp) → Dialogue op.Result
  | .findUser customerId internalId => store.findUser customerId internalId
  | .findUserByEmail email => findRow User.ofValue store.users "email" email
  | .assignCustomer userId customerId => store.assignCustomer userId customerId
  | .findPlanByProduct productId => findRow Plan.ofValue store.plans "stripe_product_id" productId
  | .findPlan planId => findRow Plan.ofValue store.plans "id" planId
  | .findEntitlement userId => findRow Entitlement.ofValue store.entitlements "user_id" userId
  | .saveEntitlement entitlement => store.saveEntitlement now entitlement
  | .resetUsage userId plan start finish => store.resetUsage now userId plan start finish
  | .findActiveUsage userId feature time => store.findActiveUsage userId feature time
  | .openCounter userId feature start finish => store.openCounter userId feature start finish
  | .spend userId feature start amount limit => store.spend userId feature start amount limit
  | .activeEntitlements time => store.activeEntitlements time
  | .revoke userId => store.revoke userId
  | .revokeSubscription subscriptionId => store.revokeSubscription subscriptionId

end RemoteStore

end PaidAccess
