import PaidAccess.Proofs.Service.Interruption
import PaidAccess.Proofs.Reconciliation.Activation
/-!
Reconciliation that is interrupted. An event makes up to seven calls, each of which can fail, and what was
changed before stays changed. `reconcile_ends` says which stores can be left, and that nobody has been told
anything unless the event was applied.
-/

namespace PaidAccess

open PaidAccess.Action Reconciliation

def Reconciliation.enter (event : ReconcileEvent) (user : User) (details : SubscriptionDetails) (bound : Fields)
    (decision : Decision) : Action ReconciliationResult := do
  let customerId ← lift (payer event user)
  let _ ← saveEntitlement (decision.entitlement user customerId details.cancelAtPeriodEnd)
  log (.of .info "billing_access_granted"
    (bound ++ [("plan_id", .text decision.plan.id), ("expires_at", .text decision.grant.finish.iso),
      ("cancel_at_period_end", .bool details.cancelAtPeriodEnd), ("usage_reset", .bool decision.usageReset)]))
  Delivery.notify user.id "subscription_updated"
    [("plan_id", .text decision.plan.id), ("expires_at", .text decision.grant.finish.iso)]
  return MemoryStore.granted user details decision

namespace Scripted

variable {writes : Bool}

theorem fail {α : Type} (failure : Failure) : Scripted writes (Action.fail failure : Action α) := lift _

theorem refuse {α : Type} (error : BillingError) : Scripted writes (Action.refuse error : Action α) := lift _

theorem askOrRefuse (request : ProviderRequest) (event : String) (fields : Fields) (error : String → BillingError) :
    Scripted writes (ProviderClient.askOrRefuse request event fields error) := by
  refine .rethrow (.ask request) (fun failure => ?_) fun failure service => ?_
  · cases failure.fromProvider? with
    | some reason => exact .bind (.log _) fun _ => .refuse _
    | none => exact .fail _
  · cases failure.fromProvider? with
    | some reason => exact ⟨_, rfl⟩
    | none => exact ⟨_, rfl⟩

theorem retrieveSubscription (id : Value) : Scripted writes (ProviderClient.retrieveSubscription id) :=
  .bind (askOrRefuse _ _ _ _) fun _ => .lift _

theorem retrievePrice (id : Value) : Scripted writes (ProviderClient.retrievePrice id) :=
  .bind (askOrRefuse _ _ _ _) fun _ => .lift _

theorem adoptCustomer (event : ReconcileEvent) (user : User) : Scripted true (adoptCustomer event user) := by
  unfold Reconciliation.adoptCustomer
  split
  next => exact .pure _
  next =>
    split
    next => exact .pure _
    next => exact .bind (.perform _ (.inl rfl)) fun _ => .pure _

theorem simulatedDetails (event : ReconcileEvent) : Scripted writes (simulatedDetails event) := by
  unfold Reconciliation.simulatedDetails
  split
  next => exact .refuse _
  next => exact .bind (retrievePrice _) fun _ => .bind .now fun _ => .bind (.lift _) fun _ => .pure _

theorem period (subscription : ProviderSubscription) : Scripted writes (period subscription) := by
  unfold Reconciliation.period
  dsimp only
  split
  next => exact .pure _
  next =>
    split
    next => exact .pure _
    next =>
      refine .bind (.log _) fun _ => ?_
      split
      next => exact .pure _
      next => exact .refuse _

theorem details (event : ReconcileEvent) : Scripted writes (details event) := by
  unfold Reconciliation.details
  split
  next => exact simulatedDetails event
  next => exact .bind (retrieveSubscription _) fun subscription => .bind (period subscription) fun _ => .pure _

theorem remarkRegression (bound : Fields) (previous : Option Entitlement) (expiresAt : DateTime) :
    Scripted writes (remarkRegression bound previous expiresAt) := by
  unfold Reconciliation.remarkRegression
  split
  next => exact .pure _
  next =>
    refine .bind (.lift _) fun earlier => ?_
    split
    next => exact .log _
    next => exact .pure _

theorem enter (event : ReconcileEvent) (user : User) (details : SubscriptionDetails) (bound : Fields)
    (decision : Decision) : Scripted true (enter event user details bound decision) :=
  .bind (.lift _) fun _ => .bind (.perform _ (.inl rfl)) fun _ => .bind (.log _) fun _ =>
    .bind (.notify rfl _ _ _) fun _ => .pure _

theorem activate (event : ReconcileEvent) (user : User) (details : SubscriptionDetails) (bound : Fields) :
    Scripted true (activate event user details bound) := by
  unfold Reconciliation.activate
  refine .bind (.lift _) fun grant => .bind (.perform _ (.inl rfl)) fun plan => ?_
  cases plan with
  | none => exact .refuse _
  | some plan =>
    refine .bind .now fun now => .bind (.lift _) fun subscriptionId => .bind (.perform _ (.inl rfl)) fun previous => ?_
    refine .bind (remarkRegression _ _ _) fun _ => .bind (.lift _) fun usageReset => ?_
    have entered := enter event user details bound ⟨grant, plan, subscriptionId, usageReset⟩
    split
    next => exact .bind (.perform _ (.inl rfl)) fun _ => entered
    next => exact entered

theorem deactivate (user : User) (details : SubscriptionDetails) (bound : Fields) :
    Scripted true (deactivate user details bound) :=
  .bind (.perform _ (.inl rfl)) fun _ => .bind (.log _) fun _ => .bind (.notify rfl _ _ _) fun _ => .pure _

theorem settle (event : ReconcileEvent) (user : User) (bound : Fields) : Scripted true (settle event user bound) := by
  refine .bind (adoptCustomer event user) fun user => .bind (details event) fun details => ?_
  split
  next => exact activate event user details bound
  next => exact deactivate user details bound
  next => exact .bind (.log _) fun _ => .pure _

theorem guarded {α : Type} (bound : Fields) (event : ReconcileEvent) {action : Action α}
    (scripted : Scripted writes action) : Scripted writes (guarded bound event action) := by
  refine .rethrow scripted (fun failure => ?_) fun failure service => ?_
  · cases failure with
    | billing error => exact .bind (.log _) fun _ => .fail _
    | _ => exact .bind (.log _) fun _ => .refuse _
  · cases failure with
    | billing error => exact ⟨_, rfl⟩
    | _ => exact ⟨_, rfl⟩

theorem skip (event : ReconcileEvent) (reason : String) : Scripted writes (skip event reason) :=
  .bind (.log _) fun _ => .pure _

theorem reconcile (event : ReconcileEvent) : Scripted true (reconcile event) := by
  refine .bind (.log _) fun _ => ?_
  split
  next => exact skip event _
  next =>
    split
    next => exact skip event _
    next =>
      refine .bind (guarded _ event (.perform _ (.inr rfl))) fun user => ?_
      cases user with
      | none => exact skip event _
      | some user => exact guarded _ event (settle event user _)

end Scripted

theorem ReconcileEvent.isComplete_of_named {event : ReconcileEvent}
    (somebody : ¬((present? event.customerId).isNone && (present? event.userReference).isNone) = true)
    (billed : ¬((present? event.subscriptionId).isNone && !event.simulated) = true) : event.isComplete = true := by
  unfold isComplete
  cases customer : present? event.customerId <;> cases reference : present? event.userReference <;>
    cases subscription : present? event.subscriptionId <;> cases simulated : event.simulated <;> simp_all

def ReconcileEvent.report (event : ReconcileEvent) : Failure → BillingError
  | .billing error => error
  | _ => .eventUnprocessed (label event)

/-- Whether the provider states these details of an event's subscription somewhere on the way of a service. -/
def Service.States (origin : Service) (event : ReconcileEvent) (details : SubscriptionDetails) : Prop :=
  ∃ store between after, between.Beside origin store ∧
    (Reconciliation.details event).run between = (.ok details, after)

theorem Service.States.details_eq {origin : Service} {event : ReconcileEvent} {details : SubscriptionDetails}
    {around : Surroundings} {before : MemoryStore} (states : origin.States event details)
    (placed : origin.calmed.At around before) : around.details event = .ok details := by
  obtain ⟨store, between, after, beside, ran⟩ := states
  have scripted : Scripted false (Reconciliation.details event) := .details event
  obtain ⟨calmAfter, ranCalm, -⟩ :=
    scripted.undisturbed beside.memory between.core_calmed between.outlet_calmed ran
  have stated := ((details_evaluates event).run (beside.placed placed)).1
  rw [ranCalm] at stated
  exact stated.symm

def ReconciliationResult.notice (result : ReconciliationResult) (details : SubscriptionDetails) : Notice :=
  match result.plan with
  | some plan =>
      ⟨"subscription_updated",
        [("plan_id", .text plan.id), ("expires_at", .ofText? (details.periodEnd.map DateTime.iso))]⟩
  | none => ⟨"subscription_removed", [("status", .text details.status)]⟩

/-- Whether exactly those are told something that a result says so. -/
inductive Announced (origin : Service) (event : ReconcileEvent) (result : ReconciliationResult) (after : Service) :
    Prop where
  | silent (idle : result.accessUpdated = false) (same : after.outlet = origin.outlet)
  | told (user : User) (details : SubscriptionDetails) (updated : result.accessUpdated = true)
      (about : result.user = some user) (states : origin.States event details)
      (same : after.outlet = (origin.told user.id (result.notice details)).outlet)

/-- What an activation leaves that failed after it had begun to reset the counters, and why it failed: the reset
did, nobody pays, or saving the entitlement failed as planned. -/
structure Unsaved (origin : Service) (around : Surroundings) (event : ReconcileEvent) (user : User)
    (store : MemoryStore) (details : SubscriptionDetails) (decision : Decision) (failure : Failure)
    (after : Service) : Prop where
  decided : store.decide around event user details = .ok decision
  reset : decision.usageReset = true
  beside : after.Beside origin (store.restart around.now user decision).2
  cause : (store.restart around.now user decision).1 = .error failure ∨ payer event user = .error failure ∨
    origin.faults (.store .saveEntitlement) = some failure :: after.faults (.store .saveEntitlement)

/-- What can be left when an event was not applied. -/
inductive Stopped (origin : Service) (around : Surroundings) (event : ReconcileEvent) (store : MemoryStore)
    (failure : Failure) (after : Service) : Prop where
  | untouched (beside : after.Beside origin store)
  | adopted (complete : event.isComplete = true) (user : User) (found : store.resolve event = .ok (some user))
      (beside : after.Beside origin (store.adopt event user))
  | restarted (complete : event.isComplete = true) (user : User) (found : store.resolve event = .ok (some user))
      (details : SubscriptionDetails) (states : origin.States event details)
      (entitled : StatusBucket.ofStatus details.status = .entitled) (decision : Decision)
      (unsaved : Unsaved origin around event (event.adopted user) (store.adopt event user) details decision failure
        after)

theorem Stopped.logged {origin after : Service} {around : Surroundings} {event : ReconcileEvent} {store : MemoryStore}
    {failure : Failure} (stopped : Stopped origin around event store failure after) (entry : LogEntry) :
    Stopped origin around event store failure (after.logged entry) := by
  cases stopped with
  | untouched beside => exact .untouched (beside.logged entry)
  | adopted complete user found beside => exact .adopted complete user found (beside.logged entry)
  | restarted complete user found details states entitled decision unsaved =>
    exact .restarted complete user found details states entitled decision
      ⟨unsaved.decided, unsaved.reset, unsaved.beside.logged entry, unsaved.cause⟩

namespace Reconciliation

variable {service origin : Service} {around : Surroundings} {store left : MemoryStore} {event : ReconcileEvent}
  {user : User} {details : SubscriptionDetails} {bound : Fields}

theorem enter_ends (user : User) (bound : Fields) (decision : Decision) (beside : service.Beside origin left)
    (planned : service.faults (.store .saveEntitlement) = origin.faults (.store .saveEntitlement))
    (states : origin.States event details) (granted : grantOf details = .ok decision.grant) :
    (enter event user details bound decision).Ends service (Announced origin event) fun failure after =>
      after.Beside origin left ∧ (payer event user = .error failure ∨
        origin.faults (.store .saveEntitlement) = some failure :: after.faults (.store .saveEntitlement)) := by
  refine .bind (.lift (fun customerId _ => ?_) fun failure unpaid => ⟨beside, .inl unpaid⟩)
  refine .bind (.perform beside (fun failure after there fails _ => ?_) (fun saved after _ there _ => ?_) ?_)
  · exact ⟨there, .inr (planned ▸ fails)⟩
  · refine .bind (.log (.bind (.notify (.pure ?_))))
    obtain ⟨-, -, -, finish⟩ := grantOf_eq_ok_iff.mp granted
    refine .told user details rfl rfl states ?_
    have told : (MemoryStore.granted user details decision).notice details =
        ⟨"subscription_updated", [("plan_id", .text decision.plan.id),
          ("expires_at", .text decision.grant.finish.iso)]⟩ := by
      unfold ReconciliationResult.notice MemoryStore.granted
      rw [finish]
      rfl
    rw [told]
    exact Service.outlet_told (there.logged _).outlet user.id _
  · rintro failure after ⟨⟩

theorem remarkRegression_ends (beside : service.Beside origin store) (previous : Option Entitlement)
    (expiresAt : DateTime) {returns : Unit → Service → Prop} {raises : Failure → Service → Prop}
    (returned : ∀ after, Entitlement.comparable previous expiresAt = .ok () → after.Beside origin store →
      after.faults = service.faults → returns () after)
    (raised : ∀ failure, raises failure service) :
    (remarkRegression bound previous expiresAt).Ends service returns raises := by
  unfold remarkRegression
  cases previous with
  | none => exact .pure (returned service rfl beside rfl)
  | some previous =>
    refine .bind (.lift (fun earlier ordered => ?_) fun failure _ => raised failure)
    have comparable : Entitlement.comparable (some previous) expiresAt = .ok () := by
      unfold Entitlement.comparable
      dsimp only
      rw [ordered]
      rfl
    split
    next => exact .log (returned _ comparable (beside.logged _) rfl)
    next => exact .pure (returned _ comparable beside rfl)

theorem activate_ends (beside : service.Beside origin store) (clock : origin.now = around.now)
    (planned : service.faults (.store .saveEntitlement) = origin.faults (.store .saveEntitlement))
    (states : origin.States event details) :
    (activate event user details bound).Ends service (Announced origin event) fun failure after =>
      after.Beside origin store ∨ ∃ decision, Unsaved origin around event user store details decision failure after := by
  unfold activate
  refine .bind (.lift (fun grant granted => ?_) fun _ _ => .inl beside)
  refine .bind (.inspect beside rfl (fun plan found sold there spared => ?_) fun _ _ there _ => .inl there)
  have sold : store.plans.get? grant.productId = plan := Except.ok.inj sold
  cases plan with
  | none => exact .of_error rfl (.inl there)
  | some plan =>
    refine .bind (.now (.bind (.lift (fun subscriptionId named => ?_) fun _ _ => .inl there)))
    rw [there.clock, clock] at named
    refine .bind (.inspect there rfl (fun previous between held here sparedToo => ?_) fun _ _ here _ => .inl here)
    have held : store.entitlements.get? user.id = previous := Except.ok.inj held
    refine .bind (remarkRegression_ends here previous grant.finish (fun after comparable marked same => ?_)
      fun _ => .inl here)
    refine .bind (.lift (fun usageReset resets => ?_) fun _ _ => .inl marked)
    have decided : store.decide around event user details = .ok ⟨grant, plan, subscriptionId, usageReset⟩ :=
      MemoryStore.decide_eq_ok_iff.mpr ⟨granted, sold, named, held ▸ comparable, held ▸ resets⟩
    -- so far the store was only looked at, and the plan for saving is what it was
    have still : after.faults (.store .saveEntitlement) = origin.faults (.store .saveEntitlement) := by
      rw [same, sparedToo _ rfl, spared _ rfl, planned]
    cases usageReset with
    | false =>
      have entered := enter_ends user bound ⟨grant, plan, subscriptionId, false⟩ marked still states granted
      exact entered.raising fun _ _ failed => .inl failed.1
    | true =>
      have restarted : store.apply origin.now (.resetUsage (.text user.id) plan (some grant.start) (some grant.finish)) =
          store.restart around.now user ⟨grant, plan, subscriptionId, true⟩ := by
        rw [clock]
        rfl
      refine .bind (.perform marked (fun _ _ there _ _ => .inl there) (fun counters between _ there spared => ?_)
        fun failure between refused there _ => ?_)
      · -- the counters are reset now, and stay so if the entitlement cannot be saved
        rw [restarted] at there
        have unspent := (spared (.store .saveEntitlement) (nomatch ·)).trans still
        have entered := enter_ends user bound ⟨grant, plan, subscriptionId, true⟩ there unspent states granted
        refine entered.raising fun failure after failed => ?_
        exact .inr ⟨_, decided, rfl, failed.1, .inr failed.2⟩
      · rw [restarted] at refused there
        exact .inr ⟨_, decided, rfl, there, .inl refused⟩

theorem deactivate_ends (beside : service.Beside origin store) (states : origin.States event details) :
    (deactivate user details bound).Ends service (Announced origin event) fun _ after => after.Beside origin store := by
  refine .bind (.perform beside (fun _ _ there _ _ => there) (fun _ after _ there _ => ?_) ?_)
  · refine .bind (.log (.bind (.notify (.pure (.told user details rfl rfl states ?_)))))
    exact Service.outlet_told (there.logged _).outlet user.id _
  · rintro failure after ⟨⟩

theorem adoptCustomer_ends (beside : service.Beside origin store)
    {returns : User → Service → Prop} {raises : Failure → Service → Prop}
    (returned : ∀ after, after.Beside origin (store.adopt event user) →
      after.faults (.store .saveEntitlement) = service.faults (.store .saveEntitlement) →
      returns (event.adopted user) after)
    (raised : ∀ failure after, after.Beside origin store → raises failure after) :
    (adoptCustomer event user).Ends service returns raises := by
  unfold adoptCustomer
  unfold ReconcileEvent.adopted MemoryStore.adopt at returned
  cases named : present? event.customerId with
  | none =>
    rw [named] at returned
    exact .pure (returned service beside rfl)
  | some customer =>
    rw [named] at returned
    dsimp only at returned ⊢
    split
    next same =>
      rw [if_pos same, ← same] at returned
      exact .pure (returned service beside rfl)
    next different =>
      rw [if_neg different] at returned
      refine .bind (.perform beside (fun failure after there _ _ => raised failure after there)
        (fun _ after _ there spared => .pure (returned after there (spared _ (nomatch ·)))) ?_)
      rintro failure after ⟨⟩

theorem settle_ends (beside : service.Beside origin store) (clock : origin.now = around.now)
    (planned : service.faults (.store .saveEntitlement) = origin.faults (.store .saveEntitlement))
    (complete : event.isComplete = true) (found : store.resolve event = .ok (some user)) :
    (settle event user bound).Ends service (Announced origin event) (Stopped origin around event store) := by
  refine .bind (adoptCustomer_ends beside (fun adopting there same => ?_) fun _ _ there => .untouched there)
  refine .bind (.of_quiet (Scripted.details event).quiet there (fun details after ran here spared => ?_)
    fun _ _ here => .adopted complete user found here)
  have states : origin.States event details := ⟨_, adopting, after, there, ran⟩
  have still := (spared .saveEntitlement rfl).trans (same.trans planned)
  split
  next entitled =>
    refine (activate_ends here clock still states).raising fun failure left failed => ?_
    rcases failed with unchanged | ⟨decision, unsaved⟩
    · exact .adopted complete user found unchanged
    · exact .restarted complete user found details states entitled decision unsaved
  next =>
    exact (deactivate_ends here states).raising fun _ _ unchanged => .adopted complete user found unchanged
  next => exact .bind (.log (.pure (.silent rfl (here.logged _).outlet)))

theorem guarded_ends {α : Type} {action : Action α} {returns : α → Service → Prop}
    {raises : Failure → Service → Prop} (ends : action.Ends service returns raises)
    (stable : ∀ failure after entry, raises failure after → raises failure (after.logged entry)) :
    (guarded bound event action).Ends service returns fun failure after =>
      ∃ cause, failure = .billing (event.report cause) ∧ raises cause after := by
  refine .recover (ends.raising fun failure between failed => ?_)
  cases failure with
  | billing error => exact .bind (.log (.of_error rfl ⟨.billing error, rfl, stable _ _ _ failed⟩))
  | _ => exact .bind (.log (.of_error rfl ⟨_, rfl, stable _ _ _ failed⟩))

/-- An event is applied, skipped, or refused with a billing error. Whatever calls fail, only what `Stopped` lists
can be left of one that was refused. -/
theorem reconcile_ends (event : ReconcileEvent) (around : Surroundings) (memory : service.store = .memory store)
    (clock : service.now = around.now) :
    (reconcile event).Ends service (Announced service event) fun failure after =>
      ∃ cause, failure = .billing (event.report cause) ∧ Stopped service around event store cause after := by
  have skipped : ∀ reason between, between.outlet = service.outlet →
      (skip event reason).Ends between (Announced service event) fun failure after =>
        ∃ cause, failure = .billing (event.report cause) ∧ Stopped service around event store cause after :=
    fun reason between same => .bind (.log (.pure (.silent rfl same)))
  have started := (Service.Beside.refl memory).logged (.of .info "billing_reconcile_started" (facts event))
  refine .bind (.log ?_)
  split
  next => exact skipped _ _ rfl
  next somebody =>
    split
    next => exact skipped _ _ rfl
    next billed =>
      have complete := ReconcileEvent.isComplete_of_named somebody billed
      refine .bind (guarded_ends (.inspect started rfl (fun found after outcome there spared => ?_)
        fun _ _ there _ => .untouched there) fun _ _ entry stopped => stopped.logged entry)
      cases found with
      | none => exact skipped _ _ there.outlet
      | some user =>
        refine guarded_ends ?_ fun _ _ entry stopped => stopped.logged entry
        exact settle_ends there clock (spared .saveEntitlement rfl) complete outcome

end Reconciliation

end PaidAccess
