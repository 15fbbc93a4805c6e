import PaidAccess.Proofs.Reconciliation.Activation
import PaidAccess.Proofs.Credits.Effect
import PaidAccess.Proofs.Calendar.Order
import PaidAccess.Proofs.Service.Sample
/-!
An event that is delivered again, however many credits were spent in between, finds its user, resets
nothing and marks the user's entitlement as updated at most. The counters survive because an activation
leaves an entitlement behind that is newer than the cycle, on the same plan and the same subscription.
-/

namespace PaidAccess

open Reconciliation

theorem resetsUsage_of_repeated {event : ReconcileEvent} {saved : Entitlement} {plan : Plan}
    {subscriptionId : String} {grant : Grant} (real : event.simulated = false)
    (ordered : grant.start.before grant.finish = .ok true) (expiry : saved.expiresAt = grant.finish)
    (samePlan : saved.planId = plan.id) (sameSubscription : saved.subscriptionId = subscriptionId) :
    resetsUsage .entitled (.of event (some saved) plan subscriptionId grant) = .ok false := by
  have running : (Activation.of event (some saved) plan subscriptionId grant).isNewCycle = .ok false := by
    simp only [Activation.isNewCycle, Activation.of, expiry]
    exact DateTime.atMost_of_before ordered
  unfold resetsUsage Activation.resetsUsage
  rw [running]
  simp only [Activation.isNewSubscription, Activation.isPlanChange, Activation.of, real, samePlan, sameSubscription]
  cases event.source <;> simp [bind, Except.bind, pure, Except.pure]

namespace MemoryStore

variable {store before between : MemoryStore} {around : Surroundings} {event : ReconcileEvent} {user : User}
  {details : SubscriptionDetails} {result : ReconciliationResult}

/-- The store with the entitlement of a user, if there is one, marked as updated. -/
def touch (store : MemoryStore) (now : DateTime) (userId : String) : MemoryStore :=
  match store.entitlements.get? userId with
  | none => store
  | some held =>
      { store with entitlements := store.entitlements.insert userId { held with updatedAt := some now } }

theorem uncounted_revoke (store : MemoryStore) (userId : String) : (store.revoke userId).Uncounted userId := by
  intro key member same
  obtain ⟨-, kept⟩ := OrderedMap.mem_keys_eraseWhere.mp member
  simp [same] at kept

theorem revoke_of_uncounted (keyed : store.Keyed) {userId : String}
    (absent : store.entitlements.get? userId = none) (uncounted : store.Uncounted userId) :
    store.revoke userId = store := by
  have unused : ∀ key ∈ store.usage.keys, (key.userId == userId) = false :=
    fun key member => beq_false_of_ne (uncounted key member)
  unfold revoke
  rw [OrderedMap.erase_of_get?_eq_none absent, OrderedMap.eraseWhere_of_forall unused,
    OrderedMap.eraseWhere_of_forall fun key member => unused key (keyed.listed key member)]

/-- An activation for the same subscription and the same customer, after another one and requests about
credits, resets nothing and saves the same entitlement. -/
theorem activate_again {other : ReconcileEvent} {id : String} (real : other.simulated = false)
    (named : present? event.subscriptionId = some id) (same : present? other.subscriptionId = some id)
    (payers : payer other user = payer event user)
    (ordered : ∀ grant, grantOf details = .ok grant → grant.start.before grant.finish = .ok true)
    (first : store.activate around event user details = (.ok result, before)) (counting : Counting before between)
    (time : DateTime) :
    between.activate (around.at time) other user details =
      (.ok { result with usageReset := false }, between.touch time user.id) := by
  obtain ⟨decision, decided, carried⟩ := activate_eq_ok_iff.mp first
  obtain ⟨granted, sold, subscription, -, -⟩ := decide_eq_ok_iff.mp decided
  obtain ⟨counters, customerId, -, paying, rfl, rfl⟩ := carryOut_eq_ok_iff.mp carried
  rw [subscriptionIdOf_of_present named, ← subscriptionIdOf_of_present same time] at subscription
  obtain ⟨usage, listed, resets, restarted⟩ := store.restart_eq around.now user decision
  have frame := counting.onlyCounters
  rw [saveEntitlement_eq, restarted] at frame
  have plans : between.plans = store.plans := frame.plans
  have held : between.entitlements.get? user.id =
      some { decision.entitlement user customerId details.cancelAtPeriodEnd with
        createdAt := store.createdAt around.now user.id, updatedAt := some around.now } := by
    rw [frame.entitlements]
    exact OrderedMap.get?_insert_self _ _ _
  have again : between.decide (around.at time) other user details =
      .ok { decision with usageReset := false } := by
    refine decide_eq_ok_iff.mpr ⟨granted, by rw [plans]; exact sold, subscription, ?_, ?_⟩
    · rw [held]
      simp [Entitlement.comparable, Decision.entitlement, DateTime.before_self, bind, Except.bind, pure, Except.pure]
    · rw [held]
      exact resetsUsage_of_repeated real (ordered _ granted) rfl rfl rfl
  refine activate_eq_ok_iff.mpr
    ⟨_, again, carryOut_eq_ok_iff.mpr ⟨[], customerId, rfl, payers.trans paying, rfl, ?_⟩⟩
  have created : between.createdAt time user.id = store.createdAt around.now user.id :=
    createdAt_of_get? held time
  unfold touch
  rw [held, ← created]
  rfl

theorem settle_again (keyed : store.Keyed) (real : event.simulated = false)
    (named : (present? event.subscriptionId).isSome)
    (ordered : StatusBucket.ofStatus details.status = .entitled →
      ∀ grant, grantOf details = .ok grant → grant.start.before grant.finish = .ok true)
    (first : store.settle around event user details = (.ok result, before)) (counting : Counting before between)
    (time : DateTime) :
    ∃ after, between.settle (around.at time) event user details = (.ok { result with usageReset := false }, after) ∧
      (after = between ∨ after = between.touch time user.id) := by
  unfold settle at first ⊢
  cases bucket : StatusBucket.ofStatus details.status with
  | entitled =>
    rw [bucket] at first
    obtain ⟨id, present⟩ := Option.isSome_iff_exists.mp named
    exact ⟨_, activate_again real present present rfl (ordered bucket) first counting time, .inr rfl⟩
  | revoked =>
    rw [bucket] at first
    cases first
    have gone : (store.revoke user.id).entitlements.get? user.id = none := OrderedMap.get?_erase_self _ _
    have still : between.entitlements.get? user.id = none := by rw [counting.onlyCounters.entitlements, gone]
    have uncounted := counting.uncounted gone (uncounted_revoke store user.id)
    exact ⟨_, rfl, .inl (revoke_of_uncounted (counting.keyed (keyed.revoke user.id)) still uncounted)⟩
  | unknown =>
    rw [bucket] at first
    cases first
    exact ⟨_, rfl, .inl rfl⟩

theorem result_of_settle (first : store.settle around event user details = (.ok result, before)) :
    result.user = some user := by
  unfold settle at first
  split at first
  next =>
    obtain ⟨decision, -, carried⟩ := activate_eq_ok_iff.mp first
    obtain ⟨_, _, -, -, rfl, -⟩ := carryOut_eq_ok_iff.mp carried
    rfl
  next => cases first; rfl
  next => cases first; rfl

theorem users_of_settle (first : store.settle around event user details = (.ok result, before)) :
    before.users = store.users := by
  unfold settle at first
  split at first
  next =>
    obtain ⟨decision, -, carried⟩ := activate_eq_ok_iff.mp first
    obtain ⟨_, _, -, -, -, rfl⟩ := carryOut_eq_ok_iff.mp carried
    exact store.restart_users around.now user decision
  next => cases first; rfl
  next => cases first; rfl

theorem reconcile_again (keyed : store.Keyed) (real : event.simulated = false) (forward : around.Forward event)
    (first : store.reconcile around event = (.ok result, before)) (counting : Counting before between)
    (time : DateTime) :
    ∃ after, between.reconcile (around.at time) event = (.ok { result with usageReset := false }, after) ∧
      (after = between ∨ ∃ user, result.user = some user ∧ after = between.touch time user.id) := by
  rcases reconcile_eq_ok_iff.mp first with ⟨skipped, rfl, rfl⟩ | ⟨complete, user, resolved, delivered⟩
  · refine ⟨between, reconcile_eq_ok_iff.mpr (.inl ⟨?_, rfl, rfl⟩), .inl rfl⟩
    rw [resolve_of_users counting.onlyCounters.users]
    exact skipped
  · obtain ⟨details, known, settled⟩ := proceed_eq_ok_iff.mp delivered
    have named : (present? event.subscriptionId).isSome := by
      simp only [ReconcileEvent.isComplete, real, Bool.or_false, Bool.and_eq_true] at complete
      exact complete.2
    obtain ⟨after, again, same⟩ := settle_again (keyed.adopt event user) real named
      (fun entitled grant => forward.grant real known entitled) settled counting time
    have found : between.resolve event = .ok (some (event.adopted user)) := by
      rw [← resolve_adopt keyed resolved]
      exact resolve_of_users (counting.onlyCounters.users.trans (users_of_settle settled))
    refine ⟨after, reconcile_eq_ok_iff.mpr (.inr ⟨complete, event.adopted user, found, ?_⟩), ?_⟩
    · refine proceed_eq_ok_iff.mpr ⟨details, (around.details_at real time).trans known, ?_⟩
      rw [event.adopted_adopted, adopt_adopted]
      exact again
    · exact same.imp_right fun touched => ⟨_, result_of_settle settled, touched⟩

end MemoryStore

namespace Reconciliation

/-- The service when an event is delivered again: after its first delivery, requests about credits at
certain times, and a wait. -/
def awaiting (service : Service) (event : ReconcileEvent) (calls : List (DateTime × CreditCall))
    (time : DateTime) : Service :=
  { ((reconcile event).run service).2.credited calls with now := time }

/-- Redelivery is idempotent. The second delivery reports what the first did, without a reset. Accounts,
plans, counters and the record of resets stay as they were just before it, and so do the entitlements,
except for the time at which that of the event's user was updated. -/
theorem reconcile_redelivered {service : Service} {around : Surroundings} {store : MemoryStore}
    {event : ReconcileEvent} {result : ReconciliationResult} (placed : service.At around store)
    (keyed : store.Keyed) (real : event.simulated = false) (forward : around.Forward event)
    (succeeded : ((reconcile event).run service).1 = .ok result) (calls : List (DateTime × CreditCall))
    (time : DateTime) :
    ∃ between entitlements,
      (awaiting service event calls time).store = .memory between ∧
      ((reconcile event).run (awaiting service event calls time)).1 = .ok { result with usageReset := false } ∧
      ((reconcile event).run (awaiting service event calls time)).2.store =
        .memory { between with entitlements := entitlements } ∧
      (entitlements = between.entitlements ∨
        ∃ user held, result.user = some user ∧ between.entitlements.get? user.id = some held ∧
          entitlements = between.entitlements.insert user.id { held with updatedAt := some time }) := by
  obtain ⟨outcome, there⟩ := (reconcile_evaluates event).run placed
  have first : store.reconcile around event = (.ok result, (store.reconcile around event).2) :=
    Prod.ext (outcome.symm.trans succeeded) rfl
  have kept := keyed.reconcile around event
  obtain ⟨last, between⟩ := there.credited calls
  have waiting := between.wait time
  obtain ⟨after, again, same⟩ := MemoryStore.reconcile_again keyed real forward first
    (MemoryStore.credited_counting kept calls) time
  obtain ⟨repeated, arrived⟩ := (reconcile_evaluates event).run waiting
  have effect : ((store.reconcile around event).2.credited calls).reconcile ((around.at last).at time) event =
      (.ok { result with usageReset := false }, after) := again
  rw [effect] at repeated arrived
  rcases same with rfl | ⟨user, about, rfl⟩
  · exact ⟨_, _, waiting.memory, repeated, arrived.memory, .inl rfl⟩
  · have stored := arrived.memory
    unfold MemoryStore.touch at stored
    split at stored
    next => exact ⟨_, _, waiting.memory, repeated, stored, .inl rfl⟩
    next held found => exact ⟨_, _, waiting.memory, repeated, stored, .inr ⟨user, held, about, found, rfl⟩⟩

def nextDay : Service :=
  awaiting Sample.shop Sample.checkout
    [(Sample.march 0 36001, .spend (.text "u1") (.whole 3)), (Sample.march 1 0, .openDay)] (Sample.march 1 1)

theorem reconcile_redelivered_checkout :
    ∃ result between entitlements,
      ((reconcile Sample.checkout).run Sample.shop).1 = .ok result ∧ result.usageReset = true ∧
      nextDay.store = .memory between ∧
      ((reconcile Sample.checkout).run nextDay).1 = .ok { result with usageReset := false } ∧
      ((reconcile Sample.checkout).run nextDay).2.store = .memory { between with entitlements := entitlements } := by
  unfold nextDay
  have reported : (((reconcile Sample.checkout).run Sample.shop).1.toOption.map (·.usageReset)) = some true := by
    decide +kernel
  have forward : Sample.around.Forward Sample.checkout := Surroundings.forward_of_all (by decide +kernel)
  cases succeeded : ((reconcile Sample.checkout).run Sample.shop).1 with
  | error failure =>
    rw [succeeded] at reported
    cases reported
  | ok result =>
    rw [succeeded] at reported
    obtain ⟨between, entitlements, before, again, after, -⟩ := reconcile_redelivered Sample.shop_at
      Sample.store_keyed rfl forward succeeded
      [(Sample.march 0 36001, .spend (.text "u1") (.whole 3)), (Sample.march 1 0, .openDay)] (Sample.march 1 1)
    refine ⟨result, between, entitlements, rfl, Option.some.inj reported, before, again, ?_⟩
    rw [after]

end Reconciliation

end PaidAccess
