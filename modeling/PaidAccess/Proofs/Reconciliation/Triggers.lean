import PaidAccess.Proofs.Reconciliation.Activation
import PaidAccess.Proofs.Provider.Statement
/-!
Which trigger an activation fires. Where points in time have zones, an activation that has all it needs is
decided, whatever was stored before; only the reset depends on that, and on the source of the event.
-/

namespace PaidAccess

open Reconciliation

def Entitlement.endedBy (held : Entitlement) (time : DateTime) : Bool :=
  decide (held.expiresAt.instant ≤ time.instant)

namespace Activation

variable {activation : Activation} {newCycle : Bool}

/-- Whether the trigger of an activation's source fires, once it is known whether the cycle is new. -/
def fires (activation : Activation) (newCycle : Bool) : Bool :=
  match activation.source with
  | .checkoutCompleted => activation.isNewSubscription
  | .invoicePaid => newCycle
  | .subscriptionUpdated => newCycle || activation.isPlanChange
  | .subscriptionDeleted => false

theorem resetsUsage_of_dated (dated : activation.isNewCycle = .ok newCycle) :
    activation.resetsUsage = .ok (activation.simulated || activation.fires newCycle) := by
  unfold resetsUsage fires
  rw [dated]
  cases activation.simulated with
  | true => rfl
  | false => cases activation.source <;> rfl

theorem isNewCycle_of_zoned {event : ReconcileEvent} {previous : Option Entitlement} {plan : Plan} {id : String}
    {grant : Grant} (known : ∀ held, previous = some held → held.expiresAt.Zoned) (starts : grant.start.Zoned) :
    (Activation.of event previous plan id grant).isNewCycle =
      .ok (previous.all (·.endedBy grant.start)) := by
  cases previous with
  | none => rfl
  | some held => exact DateTime.atMost_of_zoned (known held rfl) starts

end Activation

theorem Entitlement.comparable_of_zoned {previous : Option Entitlement} {expiresAt : DateTime}
    (known : ∀ held, previous = some held → held.expiresAt.Zoned) (zoned : expiresAt.Zoned) :
    Entitlement.comparable previous expiresAt = .ok () := by
  cases previous with
  | none => rfl
  | some held =>
    simp only [Entitlement.comparable, DateTime.before_of_zoned zoned (known held rfl)]
    rfl

namespace MemoryStore

variable {store : MemoryStore} {around : Surroundings} {event : ReconcileEvent} {user : User}
  {details : SubscriptionDetails} {grant : Grant} {plan : Plan} {id : String}

theorem payer_of_customer {customer : Option String} (paying : user.customerId = .ofText? customer) :
    payer event (event.adopted user) = .ok ((present? event.customerId).or customer) := by
  unfold payer ReconcileEvent.adopted
  cases present? event.customerId with
  | some payer => rfl
  | none =>
    dsimp only
    rw [paying, Checked.nullable_ofText?]
    rfl

theorem decide_of_zoned (zoned : ∀ held, store.entitlements.get? user.id = some held → held.expiresAt.Zoned)
    (granted : grantOf details = .ok grant)
    (sold : store.plans.get? grant.productId = some plan) (named : present? event.subscriptionId = some id)
    (starts : grant.start.Zoned) (ends : grant.finish.Zoned) :
    store.decide around event user details =
      .ok ⟨grant, plan, id, event.simulated ||
        (Activation.of event (store.entitlements.get? user.id) plan id grant).fires
          ((store.entitlements.get? user.id).all (·.endedBy grant.start))⟩ := by
  refine decide_eq_ok_iff.mpr ⟨granted, sold, subscriptionIdOf_of_present named _, ?_, ?_⟩
  · exact Entitlement.comparable_of_zoned zoned ends
  · exact Activation.resetsUsage_of_dated (Activation.isNewCycle_of_zoned zoned starts)

variable (around event user) in
theorem activate_of_zoned {customerId : Option String}
    (zoned : ∀ held, store.entitlements.get? user.id = some held → held.expiresAt.Zoned)
    (granted : grantOf details = .ok grant) (sold : store.plans.get? grant.productId = some plan)
    (named : present? event.subscriptionId = some id) (starts : grant.start.Zoned) (ends : grant.finish.Zoned)
    (paying : payer event user = .ok customerId) :
    ∃ reset after,
      store.activate around event user details =
        (.ok (MemoryStore.granted user details ⟨grant, plan, id, reset⟩), after) ∧
      after.entitlements = store.entitlements.insert user.id
        { Decision.entitlement ⟨grant, plan, id, reset⟩ user customerId details.cancelAtPeriodEnd with
          createdAt := store.createdAt around.now user.id, updatedAt := some around.now } := by
  have decided : store.decide around event user details = _ := decide_of_zoned zoned granted sold named starts ends
  exact ⟨_, _, activate_of_decided decided ends paying, saved_entitlements _ _ _ _ _⟩

variable (around event user) in
theorem activate_of_lacking
    (lacking : ∀ grant, grantOf details = .ok grant → store.plans.get? grant.productId = none) :
    ∃ error : BillingError, store.activate around event user details = (.error (.billing error), store) ∧
      error.kind = .internal := by
  cases granted : grantOf details with
  | error failure =>
    have undecided : store.decide around event user details = .error failure := by
      unfold decide
      rw [granted]
      rfl
    unfold grantOf at granted
    split at granted
    next => cases granted
    next =>
      cases granted
      exact ⟨_, activate_of_undecided undecided, rfl⟩
  | ok grant =>
    have undecided : store.decide around event user details = .error (.billing (.productUnknown grant.productId)) := by
      unfold decide
      rw [granted]
      simp only [bind, Except.bind, lacking grant granted]
    exact ⟨_, activate_of_undecided undecided, rfl⟩

end MemoryStore

end PaidAccess
