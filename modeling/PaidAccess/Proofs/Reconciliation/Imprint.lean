import PaidAccess.Proofs.Reconciliation.Interruption
import PaidAccess.Proofs.Reconciliation.CancellationRepair
/-!
What events and cancellations leave in the store, whatever the provider answers and whichever calls fail. An event
records its customer for one user at most, and it enters an entitlement only if it returns the plan that it granted. A
cancellation enters nothing.
-/

namespace PaidAccess

open PaidAccess.Action Reconciliation

namespace MemoryStore

def Entered (store : MemoryStore) (now : DateTime) (event : ReconcileEvent) (user : User)
    (details : SubscriptionDetails) (result : ReconciliationResult) (after : MemoryStore) : Prop :=
  ∃ decision customerId, subscriptionIdOf event now = .ok decision.subscriptionId ∧
    result = granted user details decision ∧
    after = ((store.restart now user decision).2.saveEntitlement now
      (decision.entitlement user customerId details.cancelAtPeriodEnd)).2

/-- What an event leaves that is not refused. -/
inductive Imprint (store : MemoryStore) (now : DateTime) (event : ReconcileEvent) (result : ReconciliationResult) :
    MemoryStore → Prop where
  | skipped (idle : result.plan = none) : Imprint store now event result store
  | adopted (user : User) (found : store.resolve event = .ok (some user)) (idle : result.plan = none) :
      Imprint store now event result (store.adopt event user)
  | revoked (user : User) (found : store.resolve event = .ok (some user)) (idle : result.plan = none) :
      Imprint store now event result ((store.adopt event user).revoke user.id)
  | entered (user : User) (found : store.resolve event = .ok (some user)) (details : SubscriptionDetails)
      {after : MemoryStore}
      (enters : (store.adopt event user).Entered now event (event.adopted user) details result after) :
      Imprint store now event result after

end MemoryStore

namespace Reconciliation

variable {service origin : Service} {store : MemoryStore} {event : ReconcileEvent} {user : User}
  {details : SubscriptionDetails} {bound : Fields}

def Leaves {α : Type} (returns : α → MemoryStore → Prop) (value : α) (after : Service) : Prop :=
  ∃ left, after.store = .memory left ∧ returns value left

theorem store_told (beside : service.Beside origin store) (entry : LogEntry) (userId : String) (notice : Notice) :
    ((service.logged entry).told userId notice).store = .memory store :=
  (congrArg Core.store ((service.logged entry).core_told userId notice)).trans beside.memory

theorem enter_imprints {decision : Decision} (named : subscriptionIdOf event origin.now = .ok decision.subscriptionId)
    (restarted : service.Beside origin (store.restart origin.now user decision).2) :
    (enter event user details bound decision).Ends service (Leaves (store.Entered origin.now event user details))
      fun _ _ => True := by
  refine .bind (.lift (fun customerId _ => ?_) fun _ _ => trivial)
  refine .bind (.perform restarted (fun _ _ _ _ _ => trivial) (fun _ after _ there _ => ?_) fun _ _ _ _ _ => trivial)
  exact .bind (.log (.bind (.notify (.pure
    ⟨_, store_told there _ _ _, decision, customerId, named, rfl, rfl⟩))))

theorem activate_imprints (beside : service.Beside origin store) :
    (activate event user details bound).Ends service (Leaves (store.Entered origin.now event user details))
      fun _ _ => True := by
  unfold activate
  refine .bind (.lift (fun grant _ => ?_) fun _ _ => trivial)
  refine .bind (.inspect beside rfl (fun plan found _ there _ => ?_) fun _ _ _ _ => trivial)
  cases plan with
  | none => exact .of_error rfl trivial
  | some plan =>
    refine .bind (.now (.bind (.lift (fun subscriptionId named => ?_) fun _ _ => trivial)))
    rw [there.clock] at named
    refine .bind (.inspect there rfl (fun previous between _ here _ => ?_) fun _ _ _ _ => trivial)
    refine .bind (.of_quiet (Scripted.remarkRegression _ _ _).quiet here (fun _ after _ marked _ => ?_)
      fun _ _ _ => trivial)
    refine .bind (.lift (fun usageReset _ => ?_) fun _ _ => trivial)
    have entered : ∀ {left : Service}, left.Beside origin
        (store.restart origin.now user ⟨grant, plan, subscriptionId, usageReset⟩).2 →
        (enter event user details bound ⟨grant, plan, subscriptionId, usageReset⟩).Ends left
          (Leaves (store.Entered origin.now event user details)) fun _ _ => True :=
      fun restarted => enter_imprints named restarted
    cases usageReset with
    | false => exact entered marked
    | true =>
      refine .bind (.perform marked (fun _ _ _ _ _ => trivial) (fun _ left _ restarted _ => ?_) fun _ _ _ _ _ => trivial)
      exact entered restarted

theorem deactivate_imprints (beside : service.Beside origin store) :
    (deactivate user details bound).Ends service
      (Leaves fun result after => result.plan = none ∧ after = store.revoke user.id) fun _ _ => True := by
  refine .bind (.perform beside (fun _ _ _ _ _ => trivial) (fun _ after _ there _ => ?_) fun _ _ _ _ _ => trivial)
  exact .bind (.log (.bind (.notify (.pure ⟨_, store_told there _ _ _, rfl, rfl⟩))))

theorem settle_imprints (beside : service.Beside origin store) (found : store.resolve event = .ok (some user)) :
    (settle event user bound).Ends service (Leaves (store.Imprint origin.now event)) fun _ _ => True := by
  refine .bind (adoptCustomer_ends beside (fun adopting there _ => ?_) fun _ _ _ => trivial)
  refine .bind (.of_quiet (Scripted.details event).quiet there (fun details after _ here _ => ?_) fun _ _ _ => trivial)
  split
  next =>
    exact (activate_imprints here).returning fun _ _ ⟨left, memory, enters⟩ =>
      ⟨left, memory, .entered user found details enters⟩
  next =>
    refine (deactivate_imprints here).returning fun _ _ ⟨left, memory, idle, revoked⟩ => ⟨left, memory, ?_⟩
    rw [revoked, event.adopted_id]
    exact .revoked user found idle
  next => exact .bind (.log (.pure ⟨_, here.memory, .adopted user found rfl⟩))

theorem reconcile_imprints (event : ReconcileEvent) (memory : service.store = .memory store) :
    (reconcile event).Ends service (Leaves (store.Imprint service.now event)) fun _ _ => True := by
  have skipped : ∀ {reason : String} {between : Service}, between.store = .memory store →
      (skip event reason).Ends between (Leaves (store.Imprint service.now event)) fun _ _ => True :=
    fun same => .bind (.log (.pure ⟨store, same, .skipped rfl⟩))
  have anyway : ∀ {action : Action ReconciliationResult} {between : Service} (bound : Fields),
      action.Ends between (Leaves (store.Imprint service.now event)) (fun _ _ => True) →
      (guarded bound event action).Ends between (Leaves (store.Imprint service.now event)) fun _ _ => True :=
    fun _ ends => (guarded_ends ends fun _ _ _ _ => trivial).raising fun _ _ _ => trivial
  have started := (Service.Beside.refl memory).logged (.of .info "billing_reconcile_started" (facts event))
  refine .bind (.log ?_)
  split
  next => exact skipped memory
  next =>
    split
    next => exact skipped memory
    next =>
      have found : (guarded (facts event) event (findUser event.customerId event.userReference)).Ends
          (service.logged (.of .info "billing_reconcile_started" (facts event)))
          (fun found after => store.resolve event = .ok found ∧ after.Beside service store) fun _ _ => True :=
        (guarded_ends (.inspect started rfl (fun _ _ outcome there _ => ⟨outcome, there⟩) fun _ _ _ _ => trivial)
          fun _ _ _ _ => trivial).raising fun _ _ _ => trivial
      refine .bind (found.returning fun resolved between ⟨outcome, there⟩ => ?_)
      cases resolved with
      | none => exact skipped there.memory
      | some user => exact anyway _ (settle_imprints there outcome)

end Reconciliation

/-- Whether an event grants a user access under a subscription when it is reconciled. -/
def Service.Grants (service : Service) (event : ReconcileEvent) (userId subscriptionId : String) : Prop :=
  ∃ result after user, (reconcile event).run service = (.ok result, after) ∧ result.plan.isSome ∧
    result.user = some user ∧ user.id = userId ∧ subscriptionIdOf event service.now = .ok subscriptionId

namespace MemoryStore

def Fewer (before after : MemoryStore) : Prop :=
  ∀ userId held, after.entitlements.get? userId = some held → before.entitlements.get? userId = some held

theorem Fewer.of_eq {before after : MemoryStore} (same : after.entitlements = before.entitlements) :
    before.Fewer after := by
  intro userId held found
  rwa [same] at found

theorem Fewer.erase {before after : MemoryStore} {userId : String}
    (erased : after.entitlements = before.entitlements.erase userId) : before.Fewer after := by
  intro other held found
  rw [erased, OrderedMap.get?_erase] at found
  split at found
  next => cases found
  next => exact found

/-- What an event changes at most, whatever comes of it. -/
structure Affected (service : Service) (event : ReconcileEvent) (before after : MemoryStore) : Prop where
  keyed : before.Keyed → after.Keyed
  users : after.users = before.users ∨
    ∃ user, before.resolve event = .ok (some user) ∧ after.users = (before.adopt event user).users
  entitlements : (∀ userId subscriptionId, ¬ service.Grants event userId subscriptionId) ∧ before.Fewer after ∨
    ∃ held, service.Grants event held.userId held.subscriptionId ∧
      after.entitlements = before.entitlements.insert held.userId held

/-- Whether all that became of a store is that some access was taken away, or counters changed. -/
structure GrantsNothing (before after : MemoryStore) : Prop where
  keyed : before.Keyed → after.Keyed
  users : after.users = before.users
  fewer : before.Fewer after

namespace GrantsNothing

variable {store between after : MemoryStore}

theorem refl (store : MemoryStore) : store.GrantsNothing store := ⟨id, rfl, .of_eq rfl⟩

theorem trans (before : store.GrantsNothing between) (later : between.GrantsNothing after) : store.GrantsNothing after :=
  ⟨fun keyed => later.keyed (before.keyed keyed), later.users.trans before.users,
    fun userId held found => before.fewer userId held (later.fewer userId held found)⟩

theorem revoke (store : MemoryStore) (userId : String) : store.GrantsNothing (store.revoke userId) :=
  ⟨fun keyed => keyed.revoke userId, rfl, .erase rfl⟩

theorem revokeSubscription (store : MemoryStore) (subscriptionId : Value) :
    store.GrantsNothing (store.revokeSubscription subscriptionId).2 := by
  refine ⟨fun keyed => keyed.revokeSubscription subscriptionId, ?_, ?_⟩
  all_goals
    unfold MemoryStore.revokeSubscription
    split
  · rfl
  · rfl
  · exact .of_eq rfl
  · exact .erase rfl

end GrantsNothing

end MemoryStore

namespace Reconciliation

open MemoryStore

variable {service : Service} {store : MemoryStore} {event : ReconcileEvent}

theorem not_grants_of_idle {result : ReconciliationResult} {after : Service}
    (ran : (reconcile event).run service = (.ok result, after)) (idle : result.plan = none) (userId id : String) :
    ¬ service.Grants event userId id := by
  rintro ⟨other, left, user, ranToo, planned, -⟩
  cases ran.symm.trans ranToo
  rw [idle] at planned
  cases planned

theorem affected_of_imprint {result : ReconciliationResult} {after : Service} {left : MemoryStore}
    (ran : (reconcile event).run service = (.ok result, after)) (imprint : store.Imprint service.now event result left) :
    Affected service event store left := by
  cases imprint with
  | skipped idle => exact ⟨id, .inl rfl, .inl ⟨not_grants_of_idle ran idle, .of_eq rfl⟩⟩
  | adopted user found idle =>
    exact ⟨fun keyed => keyed.adopt event user, .inr ⟨user, found, rfl⟩,
      .inl ⟨not_grants_of_idle ran idle, .of_eq (store.adopt_entitlements event user)⟩⟩
  | revoked user found idle =>
    refine ⟨fun keyed => (keyed.adopt event user).revoke user.id, .inr ⟨user, found, rfl⟩,
      .inl ⟨not_grants_of_idle ran idle, ?_⟩⟩
    exact Fewer.erase (congrArg (·.erase user.id) (store.adopt_entitlements event user))
  | entered user found details enters =>
    obtain ⟨decision, customerId, named, granted, rfl⟩ := enters
    -- neither the customer nor the counters that start anew touch the entitlements
    have kept := (restart_entitlements (store.adopt event user) service.now (event.adopted user) decision).trans
      (store.adopt_entitlements event user)
    let held := (saveEntitlement ((store.adopt event user).restart service.now (event.adopted user) decision).2
      service.now (decision.entitlement (event.adopted user) customerId details.cancelAtPeriodEnd)).1
    rw [granted] at ran
    refine ⟨fun keyed => ((keyed.adopt event user).restart _ _ decision).addEntitlement _,
      .inr ⟨user, found, restart_users _ _ _ decision⟩, .inr ⟨held, ?_, ?_⟩⟩
    · exact ⟨_, after, event.adopted user, ran, rfl, rfl, rfl, named⟩
    · rw [← kept]
      rfl

theorem reconcile_affects (event : ReconcileEvent) (memory : service.store = .memory store) :
    ∃ after, ((reconcile event).run service).2.store = .memory after ∧ Affected service event store after := by
  rcases ran : (reconcile event).run service with ⟨failure | result, after⟩
  · have grantless : ∀ userId id, ¬ service.Grants event userId id := by
      rintro userId id ⟨_, _, _, ranToo, -⟩
      cases ran.symm.trans ranToo
    obtain ⟨cause, -, stopped⟩ :=
      (reconcile_ends event ⟨service.now, fun _ => .ok .null, fun _ => .ok .null⟩ memory rfl).raised failure after ran
    cases stopped with
    | untouched beside => exact ⟨store, beside.memory, id, .inl rfl, .inl ⟨grantless, .of_eq rfl⟩⟩
    | adopted complete user found beside =>
      exact ⟨_, beside.memory, fun keyed => keyed.adopt event user, .inr ⟨user, found, rfl⟩,
        .inl ⟨grantless, .of_eq (store.adopt_entitlements event user)⟩⟩
    | restarted complete user found details states entitled decision unsaved =>
      refine ⟨_, unsaved.beside.memory, fun keyed => (keyed.adopt event user).restart _ _ decision,
        .inr ⟨user, found, restart_users _ _ _ decision⟩, .inl ⟨grantless, .of_eq ?_⟩⟩
      exact (restart_entitlements _ _ _ decision).trans (store.adopt_entitlements event user)
  · obtain ⟨left, stays, imprint⟩ := (reconcile_imprints event memory).returned result after ran
    exact ⟨left, stays, affected_of_imprint ran imprint⟩

theorem reconcileCancellation_grantsNothing (subscription : Value) (memory : service.store = .memory store) :
    ∃ after, ((reconcileCancellation subscription).run service).2.store = .memory after ∧ store.GrantsNothing after := by
  have beside := Service.Beside.refl memory
  have unchanged : ∀ {after : Service}, after.store = .memory store →
      ∃ left, after.store = .memory left ∧ store.GrantsNothing left := fun same => ⟨store, same, .refl store⟩
  have ends : (reconcileCancellation subscription).Ends service
      (fun _ after => ∃ left, after.store = .memory left ∧ store.GrantsNothing left)
      (fun _ after => ∃ left, after.store = .memory left ∧ store.GrantsNothing left) := by
    refine .bind (.lift (fun fields _ => ?_) fun _ _ => unchanged memory)
    dsimp only
    split
    next => exact .bind (.log (.pure (unchanged memory)))
    next =>
      refine .bind (.lift (fun customer _ => ?_) fun _ _ => unchanged memory)
      refine .bind (.lift (fun reference _ => ?_) fun _ _ => unchanged memory)
      refine .bind (cancelledUser_ends beside customer reference (fun found after _ there _ => ?_)
        fun _ _ there _ => unchanged there.memory)
      cases found with
      | some user =>
        refine .bind (.perform there (fun _ _ here _ _ => unchanged here.memory) (fun _ _ _ here _ => ?_)
          fun _ _ _ here _ => ⟨_, here.memory, .revoke store user.id⟩)
        exact .bind (.log (.bind (.notify (.pure ⟨_, store_told here _ _ _, .revoke store user.id⟩))))
      | none =>
        have removed := GrantsNothing.revokeSubscription store
        refine .bind (.log (.bind (.perform (there.logged _) (fun _ _ here _ _ => unchanged here.memory)
          (fun owner _ _ here _ => ?_) fun _ _ _ here _ => ⟨_, here.memory, removed _⟩)))
        cases owner with
        | none => exact .bind (.log (.pure ⟨_, here.memory, removed _⟩))
        | some owner =>
          refine .bind (.perform here (fun _ _ left _ _ => ⟨_, left.memory, removed _⟩) (fun _ _ _ left _ => ?_)
            fun _ _ _ left _ => ⟨_, left.memory, (removed _).trans (.revoke _ owner)⟩)
          exact .bind (.log (.pure ⟨_, left.memory, (removed _).trans (.revoke _ owner)⟩))
  exact ends.left

end Reconciliation

end PaidAccess
