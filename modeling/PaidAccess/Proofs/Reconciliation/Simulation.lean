import PaidAccess.Proofs.Reconciliation.Repair
/-!
Simulated checkouts. A simulation makes the details of a subscription up, from the price and the clock. For a user to
whom the subscription is new, a simulated checkout comes to what the completed checkout comes to once the provider
states such a subscription; only the subscription itself is missing from the result.
-/

namespace PaidAccess

open Reconciliation

/-- The announcement that a simulated event stands for. -/
def ReconcileEvent.real (event : ReconcileEvent) : ReconcileEvent :=
  { event with simulated := false, simulatedPriceId := none, simulatedStatus := none }

/-- Whether a subscription is the one that a simulation of a price makes up: it begins now and lasts a month, or a year
where the price is charged yearly. -/
structure ProviderSubscription.Mirrors (subscription : ProviderSubscription) (event : ReconcileEvent)
    (price : ProviderPrice) (now : DateTime) : Prop where
  status : subscription.status = (present? event.simulatedStatus).getD "active"
  priceId : subscription.priceId = some price.id
  productId : subscription.productId = some price.productId
  begins : subscription.periodStart = some now
  ends : ∃ finish, now.addMonths (if price.interval = some "year" then 12 else 1) = .ok finish ∧
    subscription.periodEnd = some finish
  renews : subscription.cancelAtPeriodEnd = false

/-- A simulated checkout at some surroundings, and others where the provider states the subscription that it makes
up. -/
structure SimulatedCheckout (around stating : Surroundings) (event : ReconcileEvent) (id : String)
    (subscription : ProviderSubscription) : Prop where
  simulated : event.simulated = true
  checkout : event.source = .checkoutCompleted
  named : present? event.subscriptionId = some id
  clock : stating.now = around.now
  priced : ∃ priceId price, present? event.simulatedPriceId = some priceId ∧ around.price (.text priceId) = .ok price ∧
    subscription.Mirrors event price around.now
  stated : stating.subscription (.ofText? event.subscriptionId) = .ok subscription

namespace SimulatedCheckout

variable {around stating : Surroundings} {event : ReconcileEvent} {id : String} {subscription : ProviderSubscription}

theorem details (checkout : SimulatedCheckout around stating event id subscription) :
    ∃ details, around.details event = .ok details.bare ∧ stating.details event.real = .ok details := by
  obtain ⟨priceId, price, named, known, mirrors⟩ := checkout.priced
  obtain ⟨finish, month, ends⟩ := mirrors.ends
  refine ⟨subscription.details (some around.now, some finish), ?_, ?_⟩
  · unfold Surroundings.details Surroundings.simulation
    simp only [checkout.simulated, ↓reduceIte, named, known, month, bind, Except.bind]
    unfold SubscriptionDetails.bare ProviderSubscription.details
    rw [mirrors.status, mirrors.priceId, mirrors.productId, mirrors.renews]
    rfl
  · refine (Surroundings.details_eq_ok_iff rfl).mpr ⟨subscription, _, checkout.stated, ?_, rfl⟩
    unfold ProviderSubscription.period ProviderSubscription.start? ProviderSubscription.finish?
    rw [mirrors.begins, ends]
    split <;> rfl

end SimulatedCheckout

theorem resetsUsage_real {event : ReconcileEvent} (simulated : event.simulated = true)
    (checkout : event.source = .checkoutCompleted) {previous : Option Entitlement} {id : String}
    (fresh : ∀ held, previous = some held → held.subscriptionId ≠ id) (plan : Plan) (grant : Grant) :
    resetsUsage .entitled (.of event.real previous plan id grant) =
      resetsUsage .entitled (.of event previous plan id grant) := by
  have isNew : (Activation.of event.real previous plan id grant).isNewSubscription = true := by
    unfold Activation.isNewSubscription Activation.of
    cases previous with
    | none => rfl
    | some held =>
      have different : some id ≠ some held.subscriptionId := fun same => fresh held rfl (Option.some.inj same).symm
      exact bne_iff_ne.mpr different
  unfold resetsUsage Activation.resetsUsage
  dsimp only
  rw [isNew]
  simp only [Activation.of, ReconcileEvent.real, simulated, checkout]
  rfl

namespace MemoryStore

variable {store : MemoryStore} {event : ReconcileEvent} {user : User}

theorem decide_real {around stating : Surroundings} {id : String} {subscription : ProviderSubscription}
    (checkout : SimulatedCheckout around stating event id subscription) (details : SubscriptionDetails)
    (fresh : ∀ held, store.entitlements.get? user.id = some held → held.subscriptionId ≠ id) :
    store.decide around event user details.bare = store.decide stating event.real user details := by
  have named : subscriptionIdOf event around.now = .ok id := subscriptionIdOf_of_present checkout.named _
  have namedToo : subscriptionIdOf event.real stating.now = .ok id := subscriptionIdOf_of_present checkout.named _
  have resets := resetsUsage_real checkout.simulated checkout.checkout fresh
  unfold decide
  rw [named, namedToo]
  simp only [bind, Except.bind, resets]
  rfl

theorem carryOut_bare (now : DateTime) (details : SubscriptionDetails) (decision : Decision) :
    store.carryOut now event user details.bare decision =
      ((store.carryOut now event.real user details decision).1.map ReconciliationResult.bare,
        (store.carryOut now event.real user details decision).2) := by
  have paying : payer event.real user = payer event user := rfl
  unfold carryOut
  dsimp only
  cases (store.restart now user decision).1 with
  | error failure => rfl
  | ok counters =>
    simp only [proceed_ok, enter, paying]
    cases payer event user <;> rfl

theorem settle_real {around stating : Surroundings} {id : String} {subscription : ProviderSubscription}
    (checkout : SimulatedCheckout around stating event id subscription) (details : SubscriptionDetails)
    (fresh : ∀ held, store.entitlements.get? user.id = some held → held.subscriptionId ≠ id) :
    store.settle around event user details.bare =
      ((store.settle stating event.real user details).1.map ReconciliationResult.bare,
        (store.settle stating event.real user details).2) := by
  have bucket : StatusBucket.ofStatus details.bare.status = StatusBucket.ofStatus details.status := rfl
  unfold settle
  rw [bucket]
  cases StatusBucket.ofStatus details.status with
  | entitled =>
    dsimp only
    unfold activate
    rw [decide_real checkout details fresh, checkout.clock]
    cases store.decide stating event.real user details with
    | error failure => rfl
    | ok decision =>
      simp only [proceed_ok]
      exact carryOut_bare around.now details decision
  | revoked => rfl
  | unknown => rfl

theorem reported_bare {id : String} (named : present? event.subscriptionId = some id)
    (outcome : Outcome ReconciliationResult × MemoryStore) :
    reported event (outcome.1.map ReconciliationResult.bare, outcome.2) =
      ((reported event.real outcome).1.map ReconciliationResult.bare, (reported event.real outcome).2) := by
  have called : label event.real = label event := by
    unfold label ReconcileEvent.real
    rw [named]
    rfl
  rcases outcome with ⟨failure | result, store⟩
  · cases failure with
    | billing error => rfl
    | _ => simp only [reported, Except.map, called]
  · rfl

theorem reconcile_real {around stating : Surroundings} {id : String} {subscription : ProviderSubscription}
    (checkout : SimulatedCheckout around stating event id subscription)
    (fresh : ∀ user held, store.resolve event = .ok (some user) → store.entitlements.get? user.id = some held →
      held.subscriptionId ≠ id) :
    store.reconcile around event =
      ((store.reconcile stating event.real).1.map ReconciliationResult.bare,
        (store.reconcile stating event.real).2) := by
  have complete : event.real.isComplete = event.isComplete := by
    simp [ReconcileEvent.isComplete, ReconcileEvent.real, ReconcileEvent.userReference, checkout.named]
  have found : store.resolve event.real = store.resolve event := rfl
  have adopting : ∀ user, store.adopt event.real user = store.adopt event user := fun _ => rfl
  unfold reconcile
  rw [complete, found]
  cases event.isComplete with
  | false => rfl
  | true =>
    simp only [↓reduceIte]
    rcases resolved : store.resolve event with failure | _ | user
    · exact reported_bare checkout.named (.error failure, store)
    · rfl
    · obtain ⟨details, known, stated⟩ := checkout.details
      have held : ∀ held, (store.adopt event user).entitlements.get? (event.adopted user).id = some held →
          held.subscriptionId ≠ id := by
        rw [adopt_entitlements, event.adopted_id]
        exact fun held => fresh user held resolved
      dsimp only
      rw [deliver_of_details known, deliver_of_details stated, adopting, settle_real checkout details held]
      exact reported_bare checkout.named _

end MemoryStore

theorem Service.At.calmed {service : Service} {around : Surroundings} {store : MemoryStore}
    (placed : service.At around store) : service.calmed.At around store :=
  ⟨placed.memory, placed.clock, fun _ => rfl, placed.takesSubscription, placed.takesPrice, placed.subscriptions,
    placed.prices⟩

namespace Reconciliation

/-- Whoever a checkout is for and whatever they hold, unless it is this very subscription: simulated, it leaves the
same accounts, entitlements, counters and record of resets as if it had been completed at a provider that states such
a subscription, users are told the same, and it fails exactly when that fails, in the same way. The results differ in
the subscription only. -/
theorem simulation_parity {service other : Service} {around stating : Surroundings} {store : MemoryStore}
    (placed : service.At around store) (placedToo : other.At stating store) (same : service.outlet = other.outlet)
    {event : ReconcileEvent} {id : String} {subscription : ProviderSubscription}
    (checkout : SimulatedCheckout around stating event id subscription)
    (fresh : ∀ user held, store.resolve event = .ok (some user) → store.entitlements.get? user.id = some held →
      held.subscriptionId ≠ id) :
    ((reconcile event).run service).1 = ((reconcile event.real).run other).1.map ReconciliationResult.bare ∧
      ((reconcile event).run service).2.store = ((reconcile event.real).run other).2.store ∧
      ((reconcile event).run service).2.outlet = ((reconcile event.real).run other).2.outlet := by
  obtain ⟨outcome, after⟩ := (reconcile_evaluates event).run placed
  obtain ⟨outcomeToo, afterToo⟩ := (reconcile_evaluates event.real).run placedToo
  have real := MemoryStore.reconcile_real checkout fresh
  have outcomes : ((reconcile event).run service).1 =
      ((reconcile event.real).run other).1.map ReconciliationResult.bare := by
    rw [outcome, outcomeToo, real]
  have stores : ((reconcile event).run service).2.store = ((reconcile event.real).run other).2.store := by
    rw [after.memory, afterToo.memory, real]
  refine ⟨outcomes, stores, ?_⟩
  refine outlet_of_details placed.calmed placedToo.calmed same ?_ ?_
  · rw [outcomes]
    cases ((reconcile event.real).run other).1 <;> rfl
  · intro details detailsToo known knownToo
    obtain ⟨common, stated, statedToo⟩ := checkout.details
    rw [known] at stated
    rw [knownToo] at statedToo
    cases stated
    cases statedToo
    rfl

def simulated : ReconcileEvent := { Sample.checkout with simulated := true, simulatedPriceId := some "price_1" }

def priceOnly : ProviderTables :=
  { ProviderTables.empty with
    prices := .ofList [("price_1", .record [("id", .text "price_1"), ("product", .text "prod_basic"),
      ("recurring", .record [("interval", .text "month")])])] }

def monthly : ProviderTables :=
  { ProviderTables.empty with
    subscriptions := .ofList [("sub_1", .record [("id", .text "sub_1"), ("customer", .text "cus_1"),
      ("status", .text "active"), ("current_period_start", Sample.stamp 0 36000),
      ("current_period_end", Sample.stamp 31 36000),
      ("items", .record [("data", .list [.record [("price",
        .record [("id", .text "price_1"), ("product", .text "prod_basic")])]])])])] }

def monthLater : DateTime := ((Date.of? 2026 4 1).map (Sample.march 0 36000).onDate).getD (Sample.march 0 36000)

def monthlySubscription : ProviderSubscription :=
  { Sample.normal "sub_1" "active" "prod_basic" with
    periodStart := some (Sample.march 0 36000), periodEnd := some monthLater }

theorem simulatedCheckout_monthly :
    SimulatedCheckout (priceOnly.around (Sample.march 0 36000)) (monthly.around (Sample.march 0 36000)) simulated
      "sub_1" monthlySubscription where
  simulated := rfl
  checkout := rfl
  named := rfl
  clock := rfl
  priced := ⟨"price_1", ⟨"price_1", "prod_basic", some "month"⟩, rfl, Outcome.eq_ok_of_toOption (by decide +kernel),
    rfl, rfl, rfl, rfl, ⟨monthLater, Outcome.eq_ok_of_toOption (by decide +kernel), rfl⟩, rfl⟩
  stated := Outcome.eq_ok_of_toOption (by decide +kernel)

def priceShop : Service := Sample.service (Sample.march 0 36000) Sample.store priceOnly

def monthlyShop : Service := Sample.service (Sample.march 0 36000) Sample.store monthly

/-- A simulated checkout and a completed one grant the user the same. -/
theorem simulation_parity_monthly :
    ∃ result, ((reconcile simulated).run priceShop).1 = .ok (ReconciliationResult.bare result) ∧
      ((reconcile simulated.real).run monthlyShop).1 = .ok result ∧
      result.usageReset = true ∧ result.subscription = some monthlySubscription ∧
      ((reconcile simulated).run priceShop).2.store = ((reconcile simulated.real).run monthlyShop).2.store := by
  have placed : priceShop.At (priceOnly.around (Sample.march 0 36000)) Sample.store := Sample.service_at _ _ _
  have placedToo : monthlyShop.At (monthly.around (Sample.march 0 36000)) Sample.store := Sample.service_at _ _ _
  obtain ⟨outcome, stores, -⟩ :=
    simulation_parity placed placedToo rfl simulatedCheckout_monthly fun _ _ _ absent => nomatch absent
  have granted : ((reconcile simulated.real).run monthlyShop).1.toOption.map
      (fun result => (result.usageReset, result.subscription)) = some (true, some monthlySubscription) := by
    decide +kernel
  obtain ⟨result, succeeded, facts⟩ := Option.map_eq_some_iff.mp granted
  have completed := Outcome.eq_ok_of_toOption succeeded
  injection facts with reset stated
  exact ⟨result, by rw [outcome, completed]; rfl, completed, reset, stated, stores⟩

end Reconciliation

end PaidAccess
