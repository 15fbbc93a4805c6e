import PaidAccess.Proofs.Reconciliation.Resolution
import PaidAccess.Proofs.Provider.Times
import PaidAccess.Proofs.Usage.Windows
/-!
What an activation that succeeds has decided and done.
-/

namespace PaidAccess

def ProviderSubscription.isForward (subscription : ProviderSubscription) : Bool :=
  match subscription.start?, subscription.finish? with
  | some start, some finish =>
      match start.before finish with
      | .ok earlier => earlier
      | .error _ => false
  | _, _ => true

/-- Whether the period of an event's subscription begins before it ends, where access is granted. -/
def Surroundings.Forward (around : Surroundings) (event : ReconcileEvent) : Prop :=
  ∀ subscription, around.subscription (.ofText? event.subscriptionId) = .ok subscription →
    subscription.bucket = .entitled → subscription.isForward = true

theorem ProviderSubscription.before_of_isForward {subscription : ProviderSubscription} {start finish : DateTime}
    (forward : subscription.isForward = true) (begins : subscription.start? = some start)
    (ends : subscription.finish? = some finish) : start.before finish = .ok true := by
  unfold isForward at forward
  simp only [begins, ends] at forward
  split at forward
  next earlier ordered => rw [ordered, forward]
  next => cases forward

theorem Surroundings.forward_of_all {around : Surroundings} {event : ReconcileEvent}
    (forward : (around.subscription (.ofText? event.subscriptionId)).toOption.all (·.isForward) = true) :
    around.Forward event := by
  intro subscription stated _
  rw [stated] at forward
  exact forward

namespace Reconciliation

theorem grantOf_eq_ok_iff {details : SubscriptionDetails} {grant : Grant} :
    grantOf details = .ok grant ↔
      present? details.productId = some grant.productId ∧ present? details.priceId = some grant.priceId ∧
        details.periodStart = some grant.start ∧ details.periodEnd = some grant.finish := by
  unfold grantOf
  constructor
  · intro granted
    split at granted
    next product price start finish =>
      cases granted
      exact ⟨product, price, start, finish⟩
    next => cases granted
  · rintro ⟨product, price, start, finish⟩
    simp only [product, price, start, finish]

theorem subscriptionIdOf_of_present {event : ReconcileEvent} {id : String}
    (named : present? event.subscriptionId = some id) (now : DateTime) :
    subscriptionIdOf event now = .ok id := by
  simp only [subscriptionIdOf, named]

end Reconciliation

open Reconciliation

theorem Surroundings.details_eq_ok_iff {around : Surroundings} {event : ReconcileEvent}
    (real : event.simulated = false) {details : SubscriptionDetails} :
    around.details event = .ok details ↔
      ∃ subscription period, around.subscription (.ofText? event.subscriptionId) = .ok subscription ∧
        subscription.period = .ok period ∧ details = subscription.details period := by
  unfold Surroundings.details
  rw [real]
  simp only [Bool.false_eq_true, ↓reduceIte, Outcome.bind_eq_ok_iff]
  constructor
  · rintro ⟨subscription, stated, period, known, done⟩
    exact ⟨subscription, period, stated, known, by cases done; rfl⟩
  · rintro ⟨subscription, period, stated, known, rfl⟩
    exact ⟨subscription, stated, period, known, rfl⟩

theorem Surroundings.details_at {around : Surroundings} {event : ReconcileEvent} (real : event.simulated = false)
    (time : DateTime) : (around.at time).details event = around.details event := by
  simp only [Surroundings.details, real]
  rfl

theorem Surroundings.Forward.grant {around : Surroundings} {event : ReconcileEvent} (forward : around.Forward event)
    (real : event.simulated = false) {details : SubscriptionDetails} {grant : Grant}
    (known : around.details event = .ok details) (entitled : StatusBucket.ofStatus details.status = .entitled)
    (granted : grantOf details = .ok grant) : grant.start.before grant.finish = .ok true := by
  obtain ⟨subscription, period, stated, complete, rfl⟩ := (details_eq_ok_iff real).mp known
  obtain ⟨-, -, start, finish⟩ := grantOf_eq_ok_iff.mp granted
  have bucket : subscription.bucket = .entitled := entitled
  unfold ProviderSubscription.period at complete
  simp only [bucket, ne_eq, not_true_eq_false, ↓reduceIte] at complete
  split at complete
  next =>
    cases complete
    exact ProviderSubscription.before_of_isForward (forward subscription stated bucket) start finish
  next => cases complete

namespace MemoryStore

variable {store after : MemoryStore} {around : Surroundings} {event : ReconcileEvent} {user : User}
  {details : SubscriptionDetails} {decision : Decision} {result : ReconciliationResult}

theorem decide_eq_ok_iff :
    store.decide around event user details = .ok decision ↔
      grantOf details = .ok decision.grant ∧
      store.plans.get? decision.grant.productId = some decision.plan ∧
      subscriptionIdOf event around.now = .ok decision.subscriptionId ∧
      Entitlement.comparable (store.entitlements.get? user.id) decision.grant.finish = .ok () ∧
      resetsUsage .entitled
        (.of event (store.entitlements.get? user.id) decision.plan decision.subscriptionId decision.grant) =
          .ok decision.usageReset := by
  unfold decide
  constructor
  · intro decided
    obtain ⟨grant, granted, rest⟩ := Outcome.bind_eq_ok_iff.mp decided
    split at rest
    next => cases rest
    next plan sold =>
      obtain ⟨subscriptionId, named, rest⟩ := Outcome.bind_eq_ok_iff.mp rest
      obtain ⟨⟨⟩, comparable, rest⟩ := Outcome.bind_eq_ok_iff.mp rest
      obtain ⟨usageReset, resets, rest⟩ := Outcome.bind_eq_ok_iff.mp rest
      cases rest
      exact ⟨granted, sold, named, comparable, resets⟩
  · rintro ⟨granted, sold, named, comparable, resets⟩
    simp only [granted, sold, named, comparable, resets, bind, Except.bind]
    rfl

theorem proceed_eq_ok_iff {α β : Type} {outcome : Outcome α} {next : α → Outcome β × MemoryStore} {value : β} :
    store.proceed outcome next = (.ok value, after) ↔
      ∃ first, outcome = .ok first ∧ next first = (.ok value, after) := by
  cases outcome with
  | ok first => exact ⟨fun done => ⟨first, rfl, done⟩, by rintro ⟨_, ⟨⟩, done⟩; exact done⟩
  | error failure => exact ⟨(nomatch ·), by rintro ⟨_, ⟨⟩, _⟩⟩

def granted (user : User) (details : SubscriptionDetails) (decision : Decision) : ReconciliationResult :=
  { user := some user, plan := some decision.plan, subscription := details.subscription
    accessUpdated := true, usageReset := decision.usageReset }

theorem carryOut_eq_ok_iff {now : DateTime} :
    store.carryOut now event user details decision = (.ok result, after) ↔
      ∃ counters customerId, (store.restart now user decision).1 = .ok counters ∧
        payer event user = .ok customerId ∧ result = granted user details decision ∧
        after = ((store.restart now user decision).2.saveEntitlement now
          (decision.entitlement user customerId details.cancelAtPeriodEnd)).2 := by
  unfold carryOut enter
  rw [proceed_eq_ok_iff]
  constructor
  · rintro ⟨counters, restarted, entered⟩
    obtain ⟨customerId, paying, done⟩ := proceed_eq_ok_iff.mp entered
    cases done
    exact ⟨counters, customerId, restarted, paying, rfl, rfl⟩
  · rintro ⟨counters, customerId, restarted, paying, rfl, rfl⟩
    exact ⟨counters, restarted, proceed_eq_ok_iff.mpr ⟨customerId, paying, rfl⟩⟩

theorem activate_eq_ok_iff :
    store.activate around event user details = (.ok result, after) ↔
      ∃ decision, store.decide around event user details = .ok decision ∧
        store.carryOut around.now event user details decision = (.ok result, after) :=
  proceed_eq_ok_iff

theorem settle_of_entitled (entitled : StatusBucket.ofStatus details.status = .entitled) :
    store.settle around event user details = store.activate around event user details := by
  unfold settle
  rw [entitled]

theorem reported_eq_ok_iff {α : Type} {value : α} {outcome : Outcome α × MemoryStore} :
    reported event outcome = (.ok value, after) ↔ outcome = (.ok value, after) := by
  rcases outcome with ⟨failure | value, store⟩
  · cases failure <;> simp [reported]
  · exact Iff.rfl

theorem reported_store {α : Type} (event : ReconcileEvent) (outcome : Outcome α × MemoryStore) :
    (reported event outcome).2 = outcome.2 := by
  rcases outcome with ⟨failure | value, store⟩
  · cases failure <;> rfl
  · rfl

/-- An event that succeeds is skipped without a trace, or it is about a user. -/
theorem reconcile_eq_ok_iff :
    store.reconcile around event = (.ok result, after) ↔
      ((event.isComplete = false ∨ store.resolve event = .ok none) ∧ result = .skipped ∧ after = store) ∨
      (event.isComplete = true ∧ ∃ user, store.resolve event = .ok (some user) ∧
        store.deliver around event user = (.ok result, after)) := by
  unfold reconcile
  cases event.isComplete with
  | false => simp [eq_comm]
  | true =>
    simp only [↓reduceIte, Bool.true_eq_false, false_or, true_and]
    cases store.resolve event with
    | error failure => simp [reported_eq_ok_iff]
    | ok found =>
      cases found with
      | none => simp [eq_comm]
      | some user => simp [reported_eq_ok_iff]

theorem reconcile_of_complete (complete : event.isComplete = true) (found : store.resolve event = .ok (some user)) :
    store.reconcile around event = reported event (store.deliver around event user) := by
  unfold reconcile
  rw [if_pos complete, found]

theorem reconcile_of_resolve {id : String} (named : present? event.subscriptionId = some id)
    (found : store.resolve event = .ok (some user)) :
    store.reconcile around event = reported event (store.deliver around event user) := by
  have complete : event.isComplete = true := by
    refine Bool.of_not_eq_false fun incomplete => ?_
    simp only [ReconcileEvent.isComplete, named, Option.isSome_some, Bool.true_or, Bool.and_true,
      Bool.or_eq_false_iff, Option.isSome_eq_false_iff, Option.isNone_iff_eq_none] at incomplete
    rw [resolve_of_unnamed incomplete.1 incomplete.2] at found
    cases found
  exact reconcile_of_complete complete found

theorem deliver_of_details (known : around.details event = .ok details) :
    store.deliver around event user = (store.adopt event user).settle around event (event.adopted user) details := by
  unfold deliver
  rw [known]
  rfl

theorem deliver_of_decided (known : around.details event = .ok details)
    (entitled : StatusBucket.ofStatus details.status = .entitled)
    (decided : (store.adopt event user).decide around event (event.adopted user) details = .ok decision) :
    store.deliver around event user =
      (store.adopt event user).carryOut around.now event (event.adopted user) details decision := by
  rw [deliver_of_details known, settle_of_entitled entitled]
  unfold activate
  rw [decided, proceed_ok]

def createdAt (store : MemoryStore) (now : DateTime) (userId : String) : Option DateTime :=
  match store.entitlements.get? userId with
  | some existing => existing.createdAt
  | none => some now

theorem createdAt_of_get? {userId : String} {existing : Entitlement}
    (found : store.entitlements.get? userId = some existing) (now : DateTime) :
    store.createdAt now userId = existing.createdAt := by
  unfold createdAt
  rw [found]

theorem saveEntitlement_eq (store : MemoryStore) (now : DateTime) (entitlement : Entitlement) :
    (store.saveEntitlement now entitlement).2 =
      { store with
        entitlements := store.entitlements.insert entitlement.userId
          { entitlement with createdAt := store.createdAt now entitlement.userId, updatedAt := some now } } :=
  rfl

theorem resetUsage_of_fresh (store : MemoryStore) {now : DateTime} {userId : Value} {plan : Plan}
    {start finish : Option DateTime} {counters : List UsageCounter}
    (fresh : plan.freshCounters userId start finish now = .ok counters) :
    ∃ listed resets, store.resetUsage now userId plan start finish =
      (.ok counters, { store with
        usage := store.usage.enter UsageCounter.key counters, listedStarts := listed, resets := resets }) := by
  unfold resetUsage
  rw [fresh]
  dsimp only
  rw [foldl_addCounter_eq]
  exact ⟨_, _, rfl⟩

theorem restart_eq (store : MemoryStore) (now : DateTime) (user : User) (decision : Decision) :
    ∃ usage listed resets, (store.restart now user decision).2 =
      { store with usage := usage, listedStarts := listed, resets := resets } := by
  unfold restart resetUsage
  split
  next =>
    dsimp only
    split
    next => exact ⟨_, _, _, rfl⟩
    next counters _ =>
      rw [foldl_addCounter_eq]
      exact ⟨_, _, _, rfl⟩
  next => exact ⟨_, _, _, rfl⟩

theorem restart_users (store : MemoryStore) (now : DateTime) (user : User) (decision : Decision) :
    (store.restart now user decision).2.users = store.users := by
  obtain ⟨usage, listed, resets, restarted⟩ := store.restart_eq now user decision
  rw [restarted]

theorem restart_entitlements (store : MemoryStore) (now : DateTime) (user : User) (decision : Decision) :
    (store.restart now user decision).2.entitlements = store.entitlements := by
  obtain ⟨usage, listed, resets, restarted⟩ := store.restart_eq now user decision
  rw [restarted]

theorem restart_resets (store : MemoryStore) (now : DateTime) (user : User) (decision : Decision) :
    (store.restart now user decision).2.resets = store.resets ++
      if decision.usageReset then
        [⟨.text user.id, decision.plan.id, some decision.grant.start, some decision.grant.finish⟩]
      else [] := by
  unfold restart resetUsage
  cases decision.usageReset with
  | false => simp
  | true =>
    simp only [↓reduceIte]
    split
    next => rfl
    next counters _ => rw [foldl_addCounter_eq]

theorem restart_of_reset {now : DateTime} {counters : List UsageCounter} (reset : decision.usageReset = true)
    (restarted : (store.restart now user decision).1 = .ok counters) :
    decision.plan.freshCounters (.text user.id) (some decision.grant.start) (some decision.grant.finish) now =
        .ok counters ∧
      ∃ listed resets, (store.restart now user decision).2 =
        { store with
          usage := store.usage.enter UsageCounter.key counters, listedStarts := listed, resets := resets } := by
  unfold restart at restarted ⊢
  rw [if_pos reset] at restarted ⊢
  unfold resetUsage at restarted ⊢
  dsimp only at restarted ⊢
  split at restarted
  next => cases restarted
  next fresh made =>
    cases restarted
    rw [made]
    dsimp only
    rw [foldl_addCounter_eq]
    exact ⟨rfl, _, _, rfl⟩

theorem reconcile_of_reset (reconciled : store.reconcile around event = (.ok result, after))
    (reset : result.usageReset = true) :
    ∃ (user : User) (details : SubscriptionDetails) (decision : Decision) (customerId : Option String)
        (counters : List UsageCounter) (users : OrderedMap String User)
        (listed : OrderedMap UsageKey DateTime) (resets : List ResetCall),
      result.user = some user ∧ around.details event = .ok details ∧ grantOf details = .ok decision.grant ∧
      result.plan = some decision.plan ∧
      decision.plan.freshCounters (.text user.id) (some decision.grant.start) (some decision.grant.finish) around.now =
        .ok counters ∧
      after = { store with
        users := users, usage := store.usage.enter UsageCounter.key counters, listedStarts := listed, resets := resets
        entitlements := store.entitlements.insert user.id
          { decision.entitlement user customerId details.cancelAtPeriodEnd with
            createdAt := store.createdAt around.now user.id, updatedAt := some around.now } } := by
  rcases reconcile_eq_ok_iff.mp reconciled with ⟨-, rfl, -⟩ | ⟨-, user, -, delivered⟩
  · cases reset
  · obtain ⟨details, known, settled⟩ := proceed_eq_ok_iff.mp delivered
    unfold settle at settled
    split at settled
    next =>
      obtain ⟨decision, decided, carried⟩ := activate_eq_ok_iff.mp settled
      obtain ⟨granted, -⟩ := decide_eq_ok_iff.mp decided
      obtain ⟨counters, customerId, restarted, -, rfl, rfl⟩ := carryOut_eq_ok_iff.mp carried
      obtain ⟨made, listed, resets, entered⟩ := restart_of_reset reset restarted
      refine ⟨event.adopted user, details, decision, customerId, counters, (store.adopt event user).users, listed,
        resets, rfl, known, granted, rfl, made, ?_⟩
      rw [entered, adopt_eq]
      rfl
    next =>
      cases settled
      cases reset
    next =>
      cases settled
      cases reset

theorem reconcile_of_dated_reset (reconciled : store.reconcile around event = (.ok result, after))
    (reset : result.usageReset = true) (about : result.user = some user) {plan : Plan} (bought : result.plan = some plan)
    (known : around.details event = .ok details) {start finish : DateTime} (begins : details.periodStart = some start)
    (ends : details.periodEnd = some finish) (zoned : finish.Zoned) :
    ∃ (users : OrderedMap String User) (listed : OrderedMap UsageKey DateTime) (resets : List ResetCall)
        (entitlement : Entitlement),
      entitlement.expiresAt = finish ∧ entitlement.planId = plan.id ∧
      after = { store with
        users := users, listedStarts := listed, resets := resets
        usage := store.usage.enter UsageCounter.key
          (plan.zeroCounters user.id start finish (creditsClose around.now finish))
        entitlements := store.entitlements.insert user.id entitlement } := by
  obtain ⟨_, _, decision, customerId, counters, users, listed, resets, found, stated, granted, sold, made, rfl⟩ :=
    reconcile_of_reset reconciled reset
  rw [about] at found
  cases found
  rw [bought] at sold
  cases sold
  rw [known] at stated
  cases stated
  obtain ⟨-, -, first, last⟩ := grantOf_eq_ok_iff.mp granted
  rw [begins] at first
  rw [ends] at last
  cases first
  cases last
  rw [Plan.freshCounters_of_zoned _ _ _ zoned] at made
  cases made
  exact ⟨users, listed, resets, _, rfl, rfl, rfl⟩

theorem exists_restart (store : MemoryStore) (now : DateTime) (user : User) {decision : Decision}
    (zoned : decision.grant.finish.Zoned) :
    ∃ counters, (store.restart now user decision).1 = .ok counters := by
  unfold restart resetUsage
  rw [Plan.freshCounters_of_zoned _ _ _ zoned]
  split
  next => exact ⟨_, rfl⟩
  next => exact ⟨_, rfl⟩

theorem saved_entitlements (store : MemoryStore) (now : DateTime) (user : User) (decision : Decision)
    (entitlement : Entitlement) :
    ((store.restart now user decision).2.saveEntitlement now entitlement).2.entitlements =
      store.entitlements.insert entitlement.userId
        { entitlement with createdAt := store.createdAt now entitlement.userId, updatedAt := some now } := by
  obtain ⟨usage, listed, resets, restarted⟩ := store.restart_eq now user decision
  rw [saveEntitlement_eq, restarted]
  rfl

theorem entitlements_of_carryOut {now : DateTime}
    (carried : store.carryOut now event user details decision = (.ok result, after)) :
    ∃ customerId, payer event user = .ok customerId ∧
      after.entitlements = store.entitlements.insert user.id
        { decision.entitlement user customerId details.cancelAtPeriodEnd with
          createdAt := store.createdAt now user.id, updatedAt := some now } := by
  obtain ⟨counters, customerId, -, paying, -, rfl⟩ := carryOut_eq_ok_iff.mp carried
  exact ⟨customerId, paying, saved_entitlements _ _ _ _ _⟩

theorem activate_of_decided {customerId : Option String}
    (decided : store.decide around event user details = .ok decision) (zoned : decision.grant.finish.Zoned)
    (paying : payer event user = .ok customerId) :
    store.activate around event user details =
      (.ok (granted user details decision),
        ((store.restart around.now user decision).2.saveEntitlement around.now
          (decision.entitlement user customerId details.cancelAtPeriodEnd)).2) := by
  obtain ⟨counters, restarted⟩ := exists_restart store around.now user zoned
  exact activate_eq_ok_iff.mpr ⟨decision, decided,
    carryOut_eq_ok_iff.mpr ⟨counters, customerId, restarted, paying, rfl, rfl⟩⟩

theorem activate_of_undecided {details : SubscriptionDetails} {failure : Failure}
    (undecided : store.decide around event user details = .error failure) :
    store.activate around event user details = (.error failure, store) := by
  unfold activate
  rw [undecided]
  rfl

namespace Keyed

theorem restart (keyed : store.Keyed) (now : DateTime) (user : User) (decision : Decision) :
    (store.restart now user decision).2.Keyed := by
  unfold MemoryStore.restart
  split
  next => exact keyed.resetUsage _ _ _ _ _
  next => exact keyed

theorem activate (keyed : store.Keyed) (around : Surroundings) (event : ReconcileEvent) (user : User)
    (details : SubscriptionDetails) : (store.activate around event user details).2.Keyed := by
  unfold MemoryStore.activate
  cases store.decide around event user details with
  | error failure => exact keyed
  | ok decision =>
    have restarted := keyed.restart around.now user decision
    rw [proceed_ok, carryOut]
    cases (store.restart around.now user decision).1 with
    | error failure => exact restarted
    | ok counters =>
      rw [proceed_ok, enter]
      cases payer event user with
      | error failure => exact restarted
      | ok customerId => exact restarted.addEntitlement _

theorem deliver (keyed : store.Keyed) (around : Surroundings) (event : ReconcileEvent) (user : User) :
    (store.deliver around event user).2.Keyed := by
  have adopted := keyed.adopt event user
  unfold MemoryStore.deliver
  dsimp only
  cases around.details event with
  | error failure => exact adopted
  | ok details =>
    rw [proceed_ok, settle]
    split
    next => exact adopted.activate around event _ details
    next => exact adopted.revoke _
    next => exact adopted

theorem reported {α : Type} {outcome : Outcome α × MemoryStore} (keyed : outcome.2.Keyed)
    (event : ReconcileEvent) : (MemoryStore.reported event outcome).2.Keyed := by
  rcases outcome with ⟨failure | value, store⟩
  · cases failure <;> exact keyed
  · exact keyed

theorem reconcile (keyed : store.Keyed) (around : Surroundings) (event : ReconcileEvent) :
    (store.reconcile around event).2.Keyed := by
  unfold MemoryStore.reconcile
  split
  next =>
    split
    next => exact reported keyed event
    next => exact keyed
    next user _ => exact reported (keyed.deliver around event user) event
  next => exact keyed

end Keyed

namespace Zoned

theorem activate (zoned : store.Zoned) (now : around.now.Zoned) (known : around.details event = .ok details)
    (entitled : StatusBucket.ofStatus details.status = .entitled) :
    (store.activate around event user details).2.Zoned := by
  unfold MemoryStore.activate
  cases decided : store.decide around event user details with
  | error failure => exact zoned
  | ok decision =>
    obtain ⟨-, -, -, ends⟩ := grantOf_eq_ok_iff.mp (decide_eq_ok_iff.mp decided).1
    have expires := (around.period_zoned now known entitled).2 _ ends
    have kept : (store.restart around.now user decision).2.Zoned :=
      zoned.of_entitlements (store.restart_entitlements around.now user decision)
    rw [proceed_ok, carryOut]
    cases (store.restart around.now user decision).1 with
    | error failure => exact kept
    | ok counters =>
      rw [proceed_ok, enter]
      cases payer event user with
      | error failure => exact kept
      | ok customerId => exact kept.addEntitlement expires

theorem reconcile (zoned : store.Zoned) (now : around.now.Zoned) (event : ReconcileEvent) :
    (store.reconcile around event).2.Zoned := by
  unfold MemoryStore.reconcile
  split
  next =>
    split
    next => exact zoned.of_entitlements (by rw [reported_store])
    next => exact zoned
    next user _ =>
      have adopted : (store.adopt event user).Zoned := zoned.of_entitlements (by rw [adopt_eq])
      rw [reported_store, deliver]
      cases known : around.details event with
      | error failure => exact adopted
      | ok details =>
        rw [proceed_ok, settle]
        split
        next entitled => exact adopted.activate now known entitled
        next => exact adopted.revoke _
        next => exact adopted
  next => exact zoned

end Zoned

end MemoryStore

end PaidAccess
