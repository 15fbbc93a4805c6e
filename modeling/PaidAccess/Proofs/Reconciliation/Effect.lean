import PaidAccess.Reconciliation
import PaidAccess.Proofs.Service.Evaluation
/-!
What reconciliation comes to at a store in memory: the same decisions as functions of the surroundings
and the store. `reconcile_evaluates` says that an event has exactly this effect.
-/

namespace PaidAccess

namespace ProviderSubscription

def start? (subscription : ProviderSubscription) : Option DateTime :=
  subscription.periodStart.or subscription.invoicePeriodStart

def finish? (subscription : ProviderSubscription) : Option DateTime :=
  subscription.periodEnd.or subscription.invoicePeriodEnd

def bucket (subscription : ProviderSubscription) : StatusBucket := .ofStatus subscription.status

/-- The period that counts. Where access is granted, both bounds must be known. -/
def period (subscription : ProviderSubscription) : Outcome (Option DateTime × Option DateTime) :=
  if subscription.bucket ≠ .entitled then .ok (subscription.periodStart, subscription.periodEnd)
  else if subscription.start?.isSome && subscription.finish?.isSome then
    .ok (subscription.start?, subscription.finish?)
  else .error (.billing (.periodIncomplete subscription.id subscription.start? subscription.finish?))

def details (subscription : ProviderSubscription) (period : Option DateTime × Option DateTime) :
    SubscriptionDetails :=
  { status := subscription.status, priceId := subscription.priceId, productId := subscription.productId
    periodStart := period.1, periodEnd := period.2
    cancelAtPeriodEnd := subscription.cancelAtPeriodEnd, subscription := some subscription }

end ProviderSubscription

namespace Surroundings

def simulation (around : Surroundings) (event : ReconcileEvent) : Outcome SubscriptionDetails :=
  match present? event.simulatedPriceId with
  | none => .error (.billing .simulatedPriceMissing)
  | some priceId => do
      let price ← around.price (.text priceId)
      let finish ← around.now.addMonths (if price.interval = some "year" then 12 else 1)
      return { status := (present? event.simulatedStatus).getD "active", priceId := some price.id
               productId := some price.productId, periodStart := some around.now
               periodEnd := some finish, cancelAtPeriodEnd := false, subscription := none }

def details (around : Surroundings) (event : ReconcileEvent) : Outcome SubscriptionDetails :=
  if event.simulated then around.simulation event
  else do
    let subscription ← around.subscription (.ofText? event.subscriptionId)
    let period ← subscription.period
    return subscription.details period

end Surroundings

def ReconcileEvent.adopted (event : ReconcileEvent) (user : User) : User :=
  match present? event.customerId with
  | none => user
  | some customer => { user with customerId := .text customer }

def ReconcileEvent.isComplete (event : ReconcileEvent) : Bool :=
  ((present? event.customerId).isSome || (present? event.userReference).isSome) &&
    ((present? event.subscriptionId).isSome || event.simulated)

def Activation.of (event : ReconcileEvent) (previous : Option Entitlement) (plan : Plan)
    (subscriptionId : String) (grant : Reconciliation.Grant) : Activation :=
  { source := event.source, simulated := event.simulated, previous := previous, planId := some plan.id
    subscriptionId := some subscriptionId, cycleStart := some grant.start }

/-- What an activation decides before it changes anything. -/
structure Decision where
  grant : Reconciliation.Grant
  plan : Plan
  subscriptionId : String
  usageReset : Bool

def Decision.entitlement (decision : Decision) (user : User) (customerId : Option String)
    (cancelAtPeriodEnd : Bool) : Entitlement :=
  { userId := user.id, planId := decision.plan.id, expiresAt := decision.grant.finish
    subscriptionId := decision.subscriptionId, priceId := decision.grant.priceId
    customerId := customerId, cancelAtPeriodEnd := cancelAtPeriodEnd
    createdAt := none, updatedAt := none }

def Entitlement.comparable (previous : Option Entitlement) (expiresAt : DateTime) : Outcome Unit :=
  match previous with
  | none => .ok ()
  | some previous => do
      let _ ← expiresAt.before previous.expiresAt
      return ()

def Reconciliation.renewalEvent (invoice : Value) : Outcome (Option ReconcileEvent) := do
  let fields ← Payload.record invoice
  let subscription ← Payload.invoiceSubscriptionId invoice
  let customer ← Payload.idOf (fields.get "customer")
  let reference ← Payload.metadataUserId fields
  match ← renewalIds subscription customer with
  | none => return none
  | some (subscriptionId, customerId) => do
      let reference ← ((Checked.nullable Lenient.text reference).within (.field "metadata_user_id")).outcome
      return some (.of .invoicePaid (some customerId) (some subscriptionId) reference)

namespace MemoryStore

open Reconciliation

/-- The user that an event names: the customer's, else the one that it refers to. -/
def resolve (store : MemoryStore) (event : ReconcileEvent) : Outcome (Option User) :=
  store.findUser (.ofText? event.customerId) (.ofText? event.userReference)

def adopt (store : MemoryStore) (event : ReconcileEvent) (user : User) : MemoryStore :=
  match present? event.customerId with
  | none => store
  | some customer =>
      if user.customerId = .text customer then store
      else (store.assignCustomer user.id (.text customer)).2

def decide (store : MemoryStore) (around : Surroundings) (event : ReconcileEvent) (user : User)
    (details : SubscriptionDetails) : Outcome Decision := do
  let grant ← grantOf details
  match store.plans.get? grant.productId with
  | none => .error (.billing (.productUnknown grant.productId))
  | some plan => do
      let subscriptionId ← subscriptionIdOf event around.now
      let previous := store.entitlements.get? user.id
      Entitlement.comparable previous grant.finish
      let usageReset ← resetsUsage .entitled (.of event previous plan subscriptionId grant)
      return ⟨grant, plan, subscriptionId, usageReset⟩

def restart (store : MemoryStore) (now : DateTime) (user : User) (decision : Decision) :
    Outcome (List UsageCounter) × MemoryStore :=
  if decision.usageReset then
    store.resetUsage now (.text user.id) decision.plan (some decision.grant.start) (some decision.grant.finish)
  else (.ok [], store)

def enter (store : MemoryStore) (now : DateTime) (event : ReconcileEvent) (user : User)
    (details : SubscriptionDetails) (decision : Decision) : Outcome ReconciliationResult × MemoryStore :=
  store.proceed (payer event user) fun customerId =>
    (.ok { user := some user, plan := some decision.plan, subscription := details.subscription
           accessUpdated := true, usageReset := decision.usageReset },
      (store.saveEntitlement now (decision.entitlement user customerId details.cancelAtPeriodEnd)).2)

def carryOut (store : MemoryStore) (now : DateTime) (event : ReconcileEvent) (user : User)
    (details : SubscriptionDetails) (decision : Decision) : Outcome ReconciliationResult × MemoryStore :=
  let restarted := store.restart now user decision
  restarted.2.proceed restarted.1 fun _ => restarted.2.enter now event user details decision

def activate (store : MemoryStore) (around : Surroundings) (event : ReconcileEvent) (user : User)
    (details : SubscriptionDetails) : Outcome ReconciliationResult × MemoryStore :=
  store.proceed (store.decide around event user details) (store.carryOut around.now event user details)

def settle (store : MemoryStore) (around : Surroundings) (event : ReconcileEvent) (user : User)
    (details : SubscriptionDetails) : Outcome ReconciliationResult × MemoryStore :=
  match StatusBucket.ofStatus details.status with
  | .entitled => store.activate around event user details
  | .revoked =>
      (.ok { user := some user, plan := none, subscription := details.subscription
             accessUpdated := true, usageReset := false }, store.revoke user.id)
  | .unknown =>
      (.ok { user := some user, plan := none, subscription := details.subscription
             accessUpdated := false, usageReset := false }, store)

def deliver (store : MemoryStore) (around : Surroundings) (event : ReconcileEvent) (user : User) :
    Outcome ReconciliationResult × MemoryStore :=
  let adopted := store.adopt event user
  adopted.proceed (around.details event) (adopted.settle around event (event.adopted user))

/-- A failure as reconciliation reports it: a billing error as it is, any other one as one. -/
def reported {α : Type} (event : ReconcileEvent) : Outcome α × MemoryStore → Outcome α × MemoryStore
  | (.ok value, store) => (.ok value, store)
  | (.error (.billing error), store) => (.error (.billing error), store)
  | (.error _, store) => (.error (.billing (.eventUnprocessed (label event))), store)

def reconcile (store : MemoryStore) (around : Surroundings) (event : ReconcileEvent) :
    Outcome ReconciliationResult × MemoryStore :=
  if event.isComplete then
    match store.resolve event with
    | .error failure => reported event (.error failure, store)
    | .ok none => (.ok .skipped, store)
    | .ok (some user) => reported event (store.deliver around event user)
  else (.ok .skipped, store)

def cancelled (store : MemoryStore) (customer reference : Value) : Outcome (Option User) :=
  if customer.truthy || reference.truthy then store.findUser customer reference else .ok none

def revokeOwner (store : MemoryStore) (subscriptionId : String) : Outcome Bool × MemoryStore :=
  match store.ownerOf (.text subscriptionId) with
  | none => (.ok false, store)
  | some owner => (.ok true, (store.revokeSubscription (.text subscriptionId)).2.revoke owner)

def cancel (store : MemoryStore) (subscription : Value) : Outcome Bool × MemoryStore :=
  store.proceed (Payload.record subscription) fun fields =>
    let id := fields.get "id"
    if !id.truthy || !hasBeginning "sub_" id.display then (.ok false, store)
    else
      store.proceed (Payload.idOf (fields.get "customer")) fun customer =>
        store.proceed (Payload.metadataUserId fields) fun reference =>
          store.proceed (store.cancelled customer reference) fun
            | some user => (.ok true, store.revoke user.id)
            | none => store.revokeOwner id.display

def renew (store : MemoryStore) (around : Surroundings) (invoice : Value) :
    Outcome (Option ReconciliationResult) × MemoryStore :=
  store.proceed (renewalEvent invoice) fun
    | none => (.ok none, store)
    | some event =>
        let done := store.reconcile around event
        done.2.proceed done.1 fun result => (.ok (some result), done.2)

end MemoryStore

namespace Reconciliation

variable {around : Surroundings} {store : MemoryStore}

theorem adoptCustomer_evaluates (event : ReconcileEvent) (user : User) :
    Evaluates around store (adoptCustomer event user) (.ok (event.adopted user), store.adopt event user) := by
  unfold adoptCustomer ReconcileEvent.adopted MemoryStore.adopt
  cases present? event.customerId with
  | none => exact .pure _
  | some customer =>
    by_cases same : user.customerId = .text customer
    · simp only [same, ↓reduceIte]
      rw [← same]
      exact .pure _
    · simp only [same, ↓reduceIte]
      exact .bind (.perform _) (.pure _)

theorem simulatedDetails_evaluates (event : ReconcileEvent) :
    Evaluates around store (simulatedDetails event) (around.simulation event, store) := by
  unfold simulatedDetails Surroundings.simulation
  cases present? event.simulatedPriceId with
  | none => exact .refuse _
  | some priceId =>
    refine .bind_outcome (.retrievePrice _) fun price => ?_
    exact .bind .now (.bind_outcome (.lift _) fun _ => .pure _)

theorem period_evaluates (subscription : ProviderSubscription) :
    Evaluates around store (period subscription) (subscription.period, store) := by
  unfold period ProviderSubscription.period
  by_cases entitled : subscription.bucket = .entitled
  · have granted : StatusBucket.ofStatus subscription.status = .entitled := entitled
    simp only [entitled, granted, ne_eq, not_true_eq_false, ↓reduceIte]
    by_cases stated : (subscription.periodStart.isSome && subscription.periodEnd.isSome) = true
    · obtain ⟨start, finish⟩ := Bool.and_eq_true _ _ ▸ stated
      simp only [ProviderSubscription.start?, ProviderSubscription.finish?, Option.or_of_isSome, start, finish]
      exact .pure _
    · simp only [stated, Bool.false_eq_true, ↓reduceIte]
      apply Evaluates.bind (.log _)
      unfold ProviderSubscription.start? ProviderSubscription.finish?
      split
      next => exact .pure _
      next => exact .refuse _
  · have refused : StatusBucket.ofStatus subscription.status ≠ .entitled := entitled
    simp only [entitled, refused, ne_eq, not_false_eq_true, ↓reduceIte]
    exact .pure _

theorem details_evaluates (event : ReconcileEvent) :
    Evaluates around store (details event) (around.details event, store) := by
  unfold details Surroundings.details
  cases event.simulated with
  | true => exact simulatedDetails_evaluates event
  | false =>
    refine .bind_outcome (.retrieveSubscription _) fun subscription => ?_
    exact .bind_outcome (period_evaluates subscription) fun _ => .pure _

theorem remarkRegression_evaluates (bound : Fields) (previous : Option Entitlement) (expiresAt : DateTime) :
    Evaluates around store (remarkRegression bound previous expiresAt)
      (Entitlement.comparable previous expiresAt, store) := by
  unfold remarkRegression Entitlement.comparable
  cases previous with
  | none => exact .pure _
  | some previous =>
    refine .bind_outcome (.lift _) fun earlier => ?_
    cases earlier with
    | true => exact .log _
    | false => exact .pure _

theorem enter_evaluates (event : ReconcileEvent) (user : User) (details : SubscriptionDetails) (bound : Fields)
    (decision : Decision) :
    Evaluates around store
      (do
        let customerId ← Action.lift (payer event user)
        let _ ← Action.saveEntitlement (decision.entitlement user customerId details.cancelAtPeriodEnd)
        Action.log (.of .info "billing_access_granted"
          (bound ++ [("plan_id", .text decision.plan.id), ("expires_at", .text decision.grant.finish.iso),
            ("cancel_at_period_end", .bool details.cancelAtPeriodEnd),
            ("usage_reset", .bool decision.usageReset)]))
        Delivery.notify user.id "subscription_updated"
          [("plan_id", .text decision.plan.id), ("expires_at", .text decision.grant.finish.iso)]
        return { user := some user, plan := some decision.plan, subscription := details.subscription
                 accessUpdated := true, usageReset := decision.usageReset })
      (store.enter around.now event user details decision) := by
  refine .proceed (.lift _) fun customerId => ?_
  exact .bind (.perform _) (.bind (.log _) (.bind (.notify _ _ _) (.pure _)))

theorem activate_evaluates (event : ReconcileEvent) (user : User) (details : SubscriptionDetails)
    (bound : Fields) :
    Evaluates around store (activate event user details bound) (store.activate around event user details) := by
  unfold activate MemoryStore.activate MemoryStore.decide
  rw [MemoryStore.proceed_bind]
  refine .proceed (.lift _) fun grant => .bind (.perform _) ?_
  cases store.plans.get? grant.productId with
  | none => exact .refuse _
  | some plan =>
    simp only [MemoryStore.proceed_bind]
    refine .bind .now (.proceed (.lift _) fun subscriptionId => .bind (.perform _) ?_)
    refine .proceed (remarkRegression_evaluates bound _ _) fun _ => .proceed (.lift _) fun usageReset => ?_
    have entered : ∀ after : MemoryStore, Evaluates around after _
        (after.enter around.now event user details ⟨grant, plan, subscriptionId, usageReset⟩) :=
      fun _ => enter_evaluates event user details bound ⟨grant, plan, subscriptionId, usageReset⟩
    cases usageReset with
    | true =>
      have restarted : Evaluates around store (Action.resetUsage user.id plan grant.start grant.finish)
          (store.restart around.now user ⟨grant, plan, subscriptionId, true⟩) := .perform _
      exact .follow restarted fun _ => entered _
    | false => exact entered store

theorem deactivate_evaluates (user : User) (details : SubscriptionDetails) (bound : Fields) :
    Evaluates around store (deactivate user details bound)
      (.ok { user := some user, plan := none, subscription := details.subscription
             accessUpdated := true, usageReset := false }, store.revoke user.id) :=
  .bind (.perform _) (.bind (.log _) (.bind (.notify _ _ _) (.pure _)))

theorem settle_evaluates (event : ReconcileEvent) (user : User) (bound : Fields) :
    Evaluates around store (settle event user bound) (store.deliver around event user) := by
  refine .bind (adoptCustomer_evaluates event user) (.proceed (details_evaluates event) fun details => ?_)
  unfold MemoryStore.settle
  cases StatusBucket.ofStatus details.status with
  | entitled => exact activate_evaluates event _ details bound
  | revoked => exact deactivate_evaluates _ details bound
  | unknown => exact .bind (.log _) (.pure _)

theorem guarded_evaluates {α : Type} (bound : Fields) (event : ReconcileEvent) {action : Action α}
    {result : Outcome α × MemoryStore} (evaluates : Evaluates around store action result) :
    Evaluates around store (guarded bound event action) (MemoryStore.reported event result) := by
  obtain ⟨outcome, after⟩ := result
  cases outcome with
  | ok value => exact .recover evaluates
  | error failure =>
    apply Evaluates.recover_error evaluates
    cases failure with
    | billing error => exact .bind (.log _) (.fail _)
    | _ => exact .bind (.log _) (.refuse _)

theorem skip_evaluates (event : ReconcileEvent) (reason : String) :
    Evaluates around store (skip event reason) (.ok .skipped, store) :=
  .bind (.log _) (.pure _)

theorem findUser_evaluates (event : ReconcileEvent) :
    Evaluates around store (Action.findUser event.customerId event.userReference) (store.resolve event, store) :=
  .perform _

/-- An event has the effect that its surroundings and the store decide, and no other. -/
theorem reconcile_evaluates (event : ReconcileEvent) :
    Evaluates around store (reconcile event) (store.reconcile around event) := by
  apply Evaluates.bind (.log _)
  unfold MemoryStore.reconcile ReconcileEvent.isComplete
  split
  next nobody =>
    simp only [Bool.and_eq_true, Option.isNone_iff_eq_none] at nobody
    simp only [nobody, Option.isSome_none, Bool.or_self, Bool.false_and, Bool.false_eq_true, ↓reduceIte]
    exact skip_evaluates event _
  next somebody =>
    have named : ((present? event.customerId).isSome || (present? event.userReference).isSome) = true := by
      cases customer : present? event.customerId <;> simp_all [Option.isSome_iff_ne_none]
    split
    next unbilled =>
      simp only [Bool.and_eq_true, Option.isNone_iff_eq_none, Bool.not_eq_true'] at unbilled
      simp only [unbilled, Option.isSome_none, Bool.or_self, Bool.and_false, Bool.false_eq_true, ↓reduceIte]
      exact skip_evaluates event _
    next billed =>
      have complete : ((present? event.subscriptionId).isSome || event.simulated) = true := by
        cases subscription : present? event.subscriptionId <;> simp_all
      simp only [named, complete, Bool.and_self, ↓reduceIte]
      have found := guarded_evaluates (facts event) event (@findUser_evaluates around store event)
      cases resolved : store.resolve event with
      | error failure =>
        rw [resolved] at found
        cases failure <;> exact .bind_error found
      | ok user =>
        rw [resolved] at found
        apply Evaluates.bind found
        cases user with
        | none => exact skip_evaluates event _
        | some user => exact guarded_evaluates _ event (settle_evaluates event user _)

theorem reconcileRenewal_evaluates (invoice : Value) :
    Evaluates around store (reconcileRenewal invoice) (store.renew around invoice) := by
  unfold reconcileRenewal MemoryStore.renew renewalEvent
  simp only [MemoryStore.proceed_bind]
  refine .proceed (.lift _) fun fields => .proceed (.lift _) fun subscription => .proceed (.lift _) fun customer => ?_
  refine .proceed (.lift _) fun reference => .proceed (.lift _) fun ids => ?_
  cases ids with
  | none => exact .bind (.log _) (.pure _)
  | some ids =>
    dsimp only
    rw [MemoryStore.proceed_bind]
    refine .proceed (.lift _) fun reference => .follow (reconcile_evaluates _) fun result => ?_
    cases result.accessUpdated with
    | true => exact .bind (.log _) (.pure _)
    | false => exact .bind (.log _) (.pure _)

theorem cancelledUser_evaluates (customer reference : Value) :
    Evaluates around store (cancelledUser customer reference) (store.cancelled customer reference, store) := by
  unfold cancelledUser MemoryStore.cancelled
  split
  next => exact .perform _
  next => exact .pure _

theorem reconcileCancellation_evaluates (subscription : Value) :
    Evaluates around store (reconcileCancellation subscription) (store.cancel subscription) := by
  refine .proceed (.lift _) fun fields => ?_
  dsimp only
  split
  next invalid => exact .bind (.log _) (.pure _)
  next valid =>
    refine .proceed (.lift _) fun customer => .proceed (.lift _) fun reference => ?_
    refine .proceed (cancelledUser_evaluates customer reference) fun user => ?_
    cases user with
    | some user => exact .bind (.perform _) (.bind (.log _) (.bind (.notify _ _ _) (.pure _)))
    | none =>
      have removed := @Evaluates.perform around store
        (.revokeSubscription (.text (Fields.get "id" fields).display))
      unfold MemoryStore.apply MemoryStore.revokeSubscription at removed
      unfold MemoryStore.revokeOwner MemoryStore.revokeSubscription
      apply Evaluates.bind (.log _)
      cases owner : store.ownerOf (.text (Fields.get "id" fields).display) with
      | none =>
        simp only [owner] at removed
        exact .bind removed (.bind (.log _) (.pure _))
      | some owner =>
        simp only [owner] at removed
        exact .bind removed (.bind (.perform _) (.bind (.log _) (.pure _)))

end Reconciliation

end PaidAccess
