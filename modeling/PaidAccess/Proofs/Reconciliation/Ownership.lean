import PaidAccess.Proofs.Reconciliation.Activation
import PaidAccess.Proofs.Service.Sample
/-!
Whose access is taken away when a subscription ends. Access found by the subscription is that of the
subscription. Access found by the user is whatever the user holds, also when that was bought under another
subscription since.
-/

namespace PaidAccess

open Reconciliation

namespace MemoryStore

variable {store : MemoryStore} {around : Surroundings} {event : ReconcileEvent} {subscriptionId userId : String}

/-- Whether all access under other subscriptions survives, and with it the counters of its users. -/
def Spares (subscriptionId : String) (before after : MemoryStore) : Prop :=
  ∀ userId held, before.entitlements.get? userId = some held → held.subscriptionId ≠ subscriptionId →
    after.entitlements.get? userId = some held ∧
      ∀ key, key.userId = userId → after.usage.get? key = before.usage.get? key

/-- Whether a user holds no access under another subscription. -/
def HoldsOnly (store : MemoryStore) (subscriptionId userId : String) : Prop :=
  ∀ held, store.entitlements.get? userId = some held → held.subscriptionId = subscriptionId

theorem spares_self (store : MemoryStore) (subscriptionId : String) : Spares subscriptionId store store :=
  fun _ _ found _ => ⟨found, fun _ _ => rfl⟩

theorem spares_revoke_iff : Spares subscriptionId store (store.revoke userId) ↔ store.HoldsOnly subscriptionId userId := by
  constructor
  · intro spares held found
    refine Decidable.byContradiction fun other => ?_
    have survives := (spares userId held found other).1
    rw [revoke, OrderedMap.get?_erase_self] at survives
    cases survives
  · intro only other held found different
    have distinct : other ≠ userId := by
      rintro rfl
      exact different (only held found)
    refine ⟨?_, ?_⟩
    · rw [revoke, OrderedMap.get?_erase_of_ne _ distinct, found]
    · rintro key rfl
      have kept : (key.userId == userId) = false := beq_false_of_ne distinct
      simp only [revoke, OrderedMap.get?_eraseWhere, kept, Bool.false_eq_true, ↓reduceIte]

theorem holdsOnly_of_ownerOf (keyed : store.Keyed) {owner : String}
    (found : store.ownerOf (.text subscriptionId) = some owner) : store.HoldsOnly subscriptionId owner := by
  unfold ownerOf at found
  obtain ⟨entry, listed, rfl⟩ := Option.map_eq_some_iff.mp found
  have here := keyed.entitlements.get?_of_mem (List.mem_of_find?_eq_some listed)
  have matching := List.find?_some listed
  intro held holding
  rw [here] at holding
  cases holding
  simpa [Value.isText?] using matching

theorem spares_revokeOwner (keyed : store.Keyed) :
    Spares subscriptionId store (store.revokeOwner subscriptionId).2 := by
  unfold revokeOwner
  cases found : store.ownerOf (.text subscriptionId) with
  | none => exact spares_self store subscriptionId
  | some owner =>
    have removed : (store.revokeSubscription (.text subscriptionId)).2.revoke owner = store.revoke owner := by
      simp only [revokeSubscription, found, revoke]
      rw [OrderedMap.erase_of_get?_eq_none (OrderedMap.get?_erase_self _ _)]
    dsimp only
    rw [removed]
    exact spares_revoke_iff.mpr (holdsOnly_of_ownerOf keyed found)

theorem spares_iff_of_nobody {after : MemoryStore} {outcome : Outcome (Option User)}
    (nobody : ∀ user, outcome ≠ .ok (some user)) (spares : Spares subscriptionId store after) :
    Spares subscriptionId store after ↔
      ∀ user, outcome = .ok (some user) → store.HoldsOnly subscriptionId user.id :=
  ⟨fun _ user found => absurd found (nobody user), fun _ => spares⟩

def cancelledBy (store : MemoryStore) (fields : Fields) : Outcome (Option User) := do
  let customer ← Payload.idOf (fields.get "customer")
  let reference ← Payload.metadataUserId fields
  store.cancelled customer reference

theorem spares_cancel_iff (keyed : store.Keyed) {fields : Fields} (named : fields.get "id" = .text subscriptionId) :
    Spares subscriptionId store (store.cancel (.record fields)).2 ↔
      (hasBeginning "sub_" subscriptionId = true →
        ∀ user, store.cancelledBy fields = .ok (some user) → store.HoldsOnly subscriptionId user.id) := by
  unfold cancel Payload.record cancelledBy
  rw [proceed_ok]
  simp only [named]
  cases proper : hasBeginning "sub_" subscriptionId with
  | false => simp [Value.display, proper, spares_self]
  | true =>
    have filled : (Value.text subscriptionId).truthy = true := by
      simp only [Value.truthy, bne_iff_ne]
      rintro rfl
      cases proper
    simp only [filled, Value.display, proper, Bool.not_true, Bool.or_self, Bool.false_eq_true, ↓reduceIte,
      forall_const]
    cases Payload.idOf (fields.get "customer") with
    | error failure => exact spares_iff_of_nobody (fun _ found => by cases found) (spares_self store _)
    | ok customer =>
      cases Payload.metadataUserId fields with
      | error failure => exact spares_iff_of_nobody (fun _ found => by cases found) (spares_self store _)
      | ok reference =>
        simp only [proceed_ok, bind, Except.bind]
        cases store.cancelled customer reference with
        | error failure => exact spares_iff_of_nobody (fun _ found => by cases found) (spares_self store _)
        | ok found =>
          cases found with
          | none => exact spares_iff_of_nobody (fun _ found => by cases found) (spares_revokeOwner keyed)
          | some user =>
            simp only [proceed_ok, Except.ok.injEq, Option.some.injEq, forall_eq']
            exact spares_revoke_iff

theorem deliver_of_revoked (real : event.simulated = false) {subscription : ProviderSubscription}
    (stated : around.subscription (.ofText? event.subscriptionId) = .ok subscription)
    (revoked : subscription.bucket = .revoked) (user : User) :
    (store.deliver around event user).2 = (store.adopt event user).revoke user.id := by
  have known : around.details event = .ok (subscription.details (subscription.periodStart, subscription.periodEnd)) := by
    refine (Surroundings.details_eq_ok_iff real).mpr ⟨subscription, _, stated, ?_, rfl⟩
    simp [ProviderSubscription.period, revoked]
  have bucket : StatusBucket.ofStatus (subscription.details (subscription.periodStart, subscription.periodEnd)).status =
      .revoked := revoked
  unfold deliver
  dsimp only
  rw [known, proceed_ok, settle, bucket, event.adopted_id]

theorem spares_reconcile_iff (real : event.simulated = false)
    (named : present? event.subscriptionId = some subscriptionId) {subscription : ProviderSubscription}
    (stated : around.subscription (.text subscriptionId) = .ok subscription)
    (revoked : subscription.bucket = .revoked) :
    Spares subscriptionId store (store.reconcile around event).2 ↔
      ∀ user, store.resolve event = .ok (some user) → store.HoldsOnly subscriptionId user.id := by
  have text : Value.ofText? event.subscriptionId = .text subscriptionId := by
    rw [(present?_eq_some_iff.mp named).1]
    rfl
  rw [← text] at stated
  unfold reconcile
  split
  next =>
    cases store.resolve event with
    | error failure =>
      rw [reported_store]
      exact spares_iff_of_nobody (fun _ found => by cases found) (spares_self store _)
    | ok found =>
      cases found with
      | none => exact spares_iff_of_nobody (fun _ found => by cases found) (spares_self store _)
      | some user =>
        simp only [reported_store, deliver_of_revoked real stated revoked, Except.ok.injEq, Option.some.injEq,
          forall_eq']
        rw [adopt_eq]
        exact spares_revoke_iff
  next incomplete =>
    have unnamed : store.resolve event = .ok none := by
      simp only [ReconcileEvent.isComplete, named, Option.isSome_some, Bool.true_or, Bool.and_true,
        Bool.or_eq_true, not_or, Bool.not_eq_true, Option.isSome_eq_false_iff, Option.isNone_iff_eq_none] at incomplete
      exact resolve_of_unnamed incomplete.1 incomplete.2
    rw [unnamed]
    exact spares_iff_of_nobody (fun _ found => by cases found) (spares_self store _)

end MemoryStore

namespace Reconciliation

open MemoryStore

/-- The end of a subscription takes away access under that subscription only, exactly as long as the user
that is found by customer or reference holds no access under another one. Access that is found by the
subscription always belongs to it. -/
theorem removal_spares_iff {service : Service} {around : Surroundings} {store : MemoryStore}
    (placed : service.At around store) (keyed : store.Keyed) (subscriptionId : String) :
    (∀ fields : Fields, fields.get "id" = .text subscriptionId →
      ∃ after, ((reconcileCancellation (.record fields)).run service).2.store = .memory after ∧
        (Spares subscriptionId store after ↔
          (hasBeginning "sub_" subscriptionId = true →
            ∀ user, store.cancelledBy fields = .ok (some user) → store.HoldsOnly subscriptionId user.id))) ∧
    (∀ event subscription, event.simulated = false → present? event.subscriptionId = some subscriptionId →
      around.subscription (.text subscriptionId) = .ok subscription → subscription.bucket = .revoked →
      ∃ after, ((reconcile event).run service).2.store = .memory after ∧
        (Spares subscriptionId store after ↔
          ∀ user, store.resolve event = .ok (some user) → store.HoldsOnly subscriptionId user.id)) := by
  constructor
  · intro fields named
    exact ⟨_, ((reconcileCancellation_evaluates _).run placed).2.memory, spares_cancel_iff keyed named⟩
  · intro event subscription real named stated revoked
    exact ⟨_, ((reconcile_evaluates event).run placed).2.memory, spares_reconcile_iff real named stated revoked⟩

def secondPurchase : Entitlement :=
  { userId := "u1", planId := "studio", expiresAt := Sample.march 30 32400, subscriptionId := "sub_2"
    priceId := "price_2", customerId := some "cus_1", cancelAtPeriodEnd := false
    createdAt := none, updatedAt := none }

/-- The shop after the second purchase, when the first subscription has ended. -/
def upgraded : MemoryStore := Sample.store.addEntitlement secondPurchase

def cancellation (id : String) : Fields := [("id", .text id), ("customer", .text "cus_1")]

theorem upgraded_at :
    (Sample.service (Sample.march 30 0) upgraded (Sample.tables "sub_1" "canceled" "prod_basic")).At
      ((Sample.tables "sub_1" "canceled" "prod_basic").around (Sample.march 30 0)) upgraded :=
  Sample.service_at _ _ _

/-- The end of the second subscription takes away what was bought under it, and nothing else. -/
theorem removal_spares_second :
    ∃ after, ((reconcileCancellation (.record (cancellation "sub_2"))).run (Sample.service (Sample.march 30 0) upgraded
      (Sample.tables "sub_1" "canceled" "prod_basic"))).2.store = .memory after ∧ Spares "sub_2" upgraded after := by
  have keyed : upgraded.Keyed := Sample.store_keyed.addEntitlement secondPurchase
  obtain ⟨cancelled, -⟩ := removal_spares_iff upgraded_at keyed "sub_2"
  obtain ⟨after, stored, spares⟩ := cancelled (cancellation "sub_2") rfl
  refine ⟨after, stored, spares.mpr fun _ user found => ?_⟩
  have named : upgraded.cancelledBy (cancellation "sub_2") = .ok (some Sample.user) := rfl
  rw [named] at found
  cases found
  intro held holding
  have second : upgraded.entitlements.get? "u1" = some secondPurchase := by decide +kernel
  rw [show Sample.user.id = "u1" from rfl, second] at holding
  cases holding
  rfl

/-- The end of the first subscription takes away what was bought under the second, whether it is announced
as a cancellation or as an update. -/
theorem removal_takes_second :
    (∃ after, ((reconcileCancellation (.record (cancellation "sub_1"))).run (Sample.service (Sample.march 30 0) upgraded
      (Sample.tables "sub_1" "canceled" "prod_basic"))).2.store = .memory after ∧ ¬ Spares "sub_1" upgraded after) ∧
    (∃ after, ((reconcile (Sample.event .subscriptionUpdated "sub_1")).run (Sample.service (Sample.march 30 0) upgraded
      (Sample.tables "sub_1" "canceled" "prod_basic"))).2.store = .memory after ∧ ¬ Spares "sub_1" upgraded after) := by
  have lost : ∀ after : MemoryStore, after.entitlements.get? "u1" = none → ¬ Spares "sub_1" upgraded after := by
    intro after gone spares
    have survives := (spares "u1" secondPurchase (by decide +kernel) (by decide)).1
    rw [gone] at survives
    cases survives
  constructor
  · exact ⟨_, ((reconcileCancellation_evaluates _).run upgraded_at).2.memory, lost _ (by decide +kernel)⟩
  · exact ⟨_, ((reconcile_evaluates _).run upgraded_at).2.memory, lost _ (by decide +kernel)⟩

end Reconciliation

end PaidAccess
