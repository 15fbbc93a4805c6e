import PaidAccess.Proofs.Provider.Blame
import PaidAccess.Proofs.Reconciliation.Announcement
/-!
What can come of an announcement blames nobody who sent it. No store and no payload is a reason to blame the client, so
a change that an announcement asks for fails in a way that does so only if a call of a dependency did.
-/

namespace PaidAccess

open PaidAccess.Action

namespace Outcome.Blameless

section Stores

theorem atKey {α : Type} (missing : α) (find : String → α) (key : Value) :
    Outcome.Blameless (MemoryStore.atKey missing find key) := by
  cases key <;> trivial

theorem findUser (store : MemoryStore) (customerId internalId : Value) :
    Outcome.Blameless (store.findUser customerId internalId) := by
  unfold MemoryStore.findUser MemoryStore.userOfId
  split
  next => trivial
  next =>
    split
    next => exact .atKey _ _ _
    next => trivial

theorem editAt {α : Type} (store : MemoryStore) (missing : α) (edit : String → α × MemoryStore) (key : Value) :
    Outcome.Blameless (store.editAt missing edit key).1 := by
  cases key <;> trivial

theorem creditsEnd (now cycleEnd : DateTime) : Outcome.Blameless (PaidAccess.creditsEnd now cycleEnd) :=
  .bind (.before _ _) fun _ => trivial

theorem freshCounters (plan : Plan) (userId : Value) (start finish : Option DateTime) (now : DateTime) :
    Outcome.Blameless (plan.freshCounters userId start finish now) := by
  have windows : Outcome.Blameless (plan.usageWindows finish now) := by
    unfold Plan.usageWindows
    cases plan.dailyCredits with
    | none => trivial
    | some =>
      cases finish with
      | none => trivial
      | some finish => exact .bind (.creditsEnd now finish) fun _ => trivial
  exact .bind windows fun windows => .mapM (fun _ => .checked _) windows

theorem resetUsage (store : MemoryStore) (now : DateTime) (userId : Value) (plan : Plan)
    (start finish : Option DateTime) : Outcome.Blameless (store.resetUsage now userId plan start finish).1 := by
  have fresh := freshCounters plan userId start finish now
  unfold MemoryStore.resetUsage
  dsimp only
  split
  next failure failed => exact fresh.failed failed
  next => trivial

theorem newest (counters : List UsageCounter) : Outcome.Blameless (MemoryStore.newest counters) := by
  induction counters with
  | nil => trivial
  | cons counter rest ih =>
    refine .bind ih fun later => ?_
    cases later with
    | none => trivial
    | some later => exact .bind (.before _ _) fun _ => trivial

theorem findActiveUsage (store : MemoryStore) (userId : Value) (feature : FeatureKey) (time : Option DateTime) :
    Outcome.Blameless (store.findActiveUsage userId feature time) := by
  have holds : ∀ counter, Outcome.Blameless (MemoryStore.holds time counter) := by
    intro counter
    cases time with
    | none => trivial
    | some time =>
      refine .bind (.atMost _ _) fun begun => ?_
      cases begun with
      | true => exact .before _ _
      | false => trivial
  exact .bind (.filter holds _) .newest

theorem openCounter (store : MemoryStore) (userId : Value) (feature : FeatureKey) (start finish : Option DateTime) :
    Outcome.Blameless (store.openCounter userId feature start finish).1 := by
  have key : Outcome.Blameless (MemoryStore.keyOf userId feature start) := .atKey _ _ _
  have opened := checked (UsageCounter.opened userId feature start finish)
  unfold MemoryStore.openCounter
  split
  next failure failed => exact key.failed failed
  next =>
    split
    next => trivial
    next =>
      split
      next failure failed => exact opened.failed failed
      next => trivial

theorem spend (store : MemoryStore) (key : UsageKey) (amount limit : Value) :
    Outcome.Blameless (store.spend key amount limit).1 := by
  have spent : ∀ (counter : UsageCounter) (amount limit : Amount),
      Outcome.Blameless (MemoryStore.spentFrom counter amount limit) := by
    intro counter amount limit
    unfold MemoryStore.spentFrom
    split <;> trivial
  unfold MemoryStore.spend
  split
  next => trivial
  next =>
    split
    next =>
      split
      next => trivial
      next => exact spent _ _ _
    next => trivial

theorem activeEntitlements (store : MemoryStore) (time : Option DateTime) :
    Outcome.Blameless (store.activeEntitlements time) := by
  refine .filter (fun entitlement => ?_) _
  cases time with
  | none => trivial
  | some time => exact .before _ _

theorem apply (store : MemoryStore) (now : DateTime) (op : StoreOp) : Outcome.Blameless (store.apply now op).1 := by
  cases op with
  | findUser customerId internalId => exact .findUser store customerId internalId
  | assignCustomer userId customerId => exact .editAt store none (store.assignCustomer · customerId) userId
  | findPlanByProduct productId => exact .atKey none store.plans.get? productId
  | findEntitlement userId => exact .atKey none store.entitlements.get? userId
  | resetUsage userId plan start finish => exact .resetUsage store now userId plan start finish
  | findActiveUsage userId feature time => exact .findActiveUsage store userId feature time
  | openCounter userId feature start finish => exact .openCounter store userId feature start finish
  | spend userId feature start amount limit =>
    have key : Outcome.Blameless (MemoryStore.keyOf userId feature start) := .atKey _ _ _
    unfold MemoryStore.apply
    dsimp only
    split
    next => exact .spend store _ amount limit
    next => trivial
    next failure failed => exact key.failed failed
  | activeEntitlements time => exact .activeEntitlements store time
  | revoke userId => exact .editAt store () (fun user => ((), store.revoke user)) userId
  | _ => trivial

theorem readRows {α : Type} (read : Value → Checked α) (rows : List Value) :
    Outcome.Blameless (RemoteStore.readRows read rows) := by
  induction rows with
  | nil => trivial
  | cons row rest ih => exact .bind (.checked _) fun _ => .bind ih fun _ => trivial

theorem ownerOfRow (row : Value) : Outcome.Blameless (RemoteStore.ownerOfRow row) := by
  unfold RemoteStore.ownerOfRow
  split
  next => split <;> trivial
  next => trivial

end Stores

section Reconciliation

theorem grantOf (details : SubscriptionDetails) : Outcome.Blameless (Reconciliation.grantOf details) := by
  unfold Reconciliation.grantOf
  split
  next => trivial
  next => rfl

theorem subscriptionIdOf (event : ReconcileEvent) (now : DateTime) :
    Outcome.Blameless (Reconciliation.subscriptionIdOf event now) := by
  unfold Reconciliation.subscriptionIdOf
  split
  next => trivial
  next => exact .bind (.epochMillis now) fun _ => trivial

theorem resetsUsage (bucket : StatusBucket) (activation : Activation) :
    Outcome.Blameless (PaidAccess.resetsUsage bucket activation) := by
  have cycle : Outcome.Blameless activation.isNewCycle := by
    unfold Activation.isNewCycle
    split
    next => trivial
    next =>
      split
      next => exact .atMost _ _
      next => trivial
  cases bucket with
  | entitled =>
    refine .bind cycle fun _ => ?_
    split
    next => trivial
    next => cases activation.source <;> trivial
  | _ => trivial

theorem payer (event : ReconcileEvent) (user : User) : Outcome.Blameless (Reconciliation.payer event user) := by
  unfold Reconciliation.payer
  split
  next => trivial
  next => exact .checked _

theorem renewalIds (subscription customer : Value) :
    Outcome.Blameless (Reconciliation.renewalIds subscription customer) := by
  have text : ∀ value, Outcome.Blameless (Reconciliation.idText value) := fun value => by cases value <;> trivial
  unfold Reconciliation.renewalIds
  split
  next =>
    refine .bind (text _) fun _ => ?_
    split
    next => trivial
    next =>
      refine .bind (text _) fun _ => ?_
      split <;> trivial
  next => trivial

theorem renewalEvent (invoice : Value) : Outcome.Blameless (Reconciliation.renewalEvent invoice) := by
  refine .bind (.record invoice) fun fields => .bind (.invoiceSubscriptionId invoice) fun subscription => ?_
  refine .bind (.idOf _) fun customer => .bind (.metadataUserId fields) fun reference => ?_
  refine .bind (.renewalIds _ _) fun ids => ?_
  cases ids with
  | none => trivial
  | some ids => exact .bind (.checked _) fun _ => trivial

theorem reading (event : Value) : Outcome.Blameless (Webhook.reading event) := by
  have subject : ∀ fields, Outcome.Blameless (Webhook.subject fields) :=
    fun fields => .bind (.recordOrEmpty _) fun _ => trivial
  refine .bind (.record event) fun fields => .bind (subject fields) fun object => ?_
  unfold Webhook.readingOf
  split
  next =>
    refine .bind ?_ fun _ => trivial
    refine .bind (.record object) fun fields => .bind (.idOf _) fun _ => .bind (.idOf _) fun _ => ?_
    split
    next => trivial
    next => exact .bind (.metadataUserId fields) fun _ => .bind (.checked _) fun _ => trivial
  next => exact .bind (.renewalEvent object) fun _ => trivial
  next =>
    refine .bind ?_ fun _ => trivial
    exact .bind (.record object) fun fields => .bind (.idOf _) fun _ => .bind (.metadataUserId fields) fun _ =>
      .checked _
  next => trivial
  next => trivial

end Reconciliation

end Outcome.Blameless

def Dialogue.Blameless {α : Type} : Dialogue α → Prop
  | .done outcome => Outcome.Blameless outcome
  | .ask _ next => ∀ rows, (next rows).Blameless
  | .remark _ next => next.Blameless

namespace Dialogue.Blameless

variable {α β : Type}

theorem bind {first : Dialogue α} {next : α → Dialogue β} (blameless : first.Blameless)
    (rest : ∀ value, (next value).Blameless) : (first >>= next).Blameless := by
  induction first with
  | done outcome =>
    cases outcome with
    | ok value => exact rest value
    | error => exact blameless
  | ask query answer ih => exact fun rows => ih rows (blameless rows)
  | remark entry later ih => exact ih blameless

theorem rows (query : Query) : (Dialogue.rows query).Blameless := fun _ => trivial

theorem note (entry : LogEntry) : (Dialogue.note entry).Blameless := trivial

theorem pure (value : α) : (Pure.pure value : Dialogue α).Blameless := trivial

theorem readRow (read : Value → Checked α) (row : Option Value) : (RemoteStore.readRow read row).Blameless := by
  cases row with
  | none => exact .pure none
  | some row => exact .bind (Outcome.Blameless.checked (read row)) fun _ => .pure _

theorem findRow (read : Value → Checked α) (table column : String) (value : Value) :
    (RemoteStore.findRow read table column value).Blameless :=
  .bind (.bind (.rows _) fun _ => .pure _) fun row => .readRow read row

theorem stamp (time : Option DateTime) : (RemoteStore.stamp time).Blameless := by
  cases time <;> trivial

theorem findUser (store : RemoteStore) (customerId internalId : Value) :
    (store.findUser customerId internalId).Blameless := by
  unfold RemoteStore.findUser
  cases customerId.truthy with
  | false =>
    cases internalId.truthy with
    | false => exact .pure none
    | true => exact .findRow _ _ _ _
  | true =>
    refine .bind (.findRow _ _ _ _) fun owner => ?_
    cases owner with
    | some user => exact .pure _
    | none =>
      cases internalId.truthy with
      | false => exact .pure none
      | true => exact .bind (.note _) fun _ => .findRow _ _ _ _

theorem program (now : DateTime) (store : RemoteStore) (op : StoreOp) : (store.program now op).Blameless := by
  cases op with
  | findUser customerId internalId => exact .findUser store customerId internalId
  | assignCustomer => exact .bind (.note _) fun _ => .bind (.rows _) fun _ => .readRow _ _
  | saveEntitlement => exact .bind (.note _) fun _ => .bind (.rows _) fun _ => .bind (.readRow _ _) fun _ => .pure _
  | resetUsage userId plan start finish =>
    refine .bind (Outcome.Blameless.freshCounters plan userId start finish now) fun counters => ?_
    split
    next => exact .pure []
    next => exact .bind (.rows _) fun _ => .pure counters
  | findActiveUsage => exact .bind (.stamp _) fun _ => .bind (.rows _) fun _ => .readRow _ _
  | openCounter =>
    exact .bind (Outcome.Blameless.checked _) fun _ => .bind (.rows _) fun _ => .bind (.rows _) fun _ =>
      .bind (.readRow _ _) fun _ => .pure _
  | spend => exact .bind (.stamp _) fun _ => .bind (.rows _) fun _ => .readRow _ _
  | activeEntitlements =>
    exact .bind (.stamp _) fun _ => .bind (.rows _) fun rows => Outcome.Blameless.readRows Entitlement.ofValue rows
  | revoke => exact .bind (.rows _) fun _ => .note _
  | revokeSubscription =>
    refine .bind (.rows _) fun rows => ?_
    cases rows with
    | nil => exact .bind (.note _) fun _ => .pure none
    | cons row => exact .bind (Outcome.Blameless.ownerOfRow row) fun _ => .pure _
  | _ => exact .findRow _ _ _ _

end Dialogue.Blameless

/-- A failure that a dependency of a service raises, as it is planned or as the provider answers. -/
inductive Service.Raises (service : Service) (failure : Failure) : Prop where
  | planned (point : FaultPoint) (listed : some failure ∈ service.faults point)
  | answered (served : List ProviderRequest) (request : ProviderRequest)
      (refused : service.provider.answer served request = .error failure)

/-- A failure that blames the client only if it is one of those that are given. -/
def Failure.BlamelessBut (given : Failure → Prop) (failure : Failure) : Prop := failure.Blameless ∨ given failure

def Outcome.BlamelessBut {α : Type} (given : Failure → Prop) : Outcome α → Prop
  | .ok _ => True
  | .error failure => failure.BlamelessBut given

theorem Outcome.Blameless.but {α : Type} {outcome : Outcome α} (blameless : Outcome.Blameless outcome)
    (given : Failure → Prop) : outcome.BlamelessBut given := by
  cases outcome with
  | ok => trivial
  | error => exact .inl blameless

def Service.BlamelessBut (given : Failure → Prop) (service : Service) : Prop :=
  ∀ failure, service.Raises failure → failure.BlamelessBut given

def Action.BlamelessBut {α : Type} (given : Failure → Prop) (action : Action α) : Prop :=
  ∀ service : Service, service.BlamelessBut given →
    (action.run service).1.BlamelessBut given ∧ (action.run service).2.BlamelessBut given

namespace Service.BlamelessBut

variable {given : Failure → Prop} {service after : Service}

theorem raised (service : Service) : service.BlamelessBut service.Raises := fun _ raised => .inr raised

theorem of_same (blameless : service.BlamelessBut given) (faults : after.faults = service.faults)
    (answer : after.provider.answer = service.provider.answer) : after.BlamelessBut given := by
  intro failure raised
  cases raised with
  | planned point listed => exact blameless failure (.planned point (faults ▸ listed))
  | answered served request refused => exact blameless failure (.answered served request (answer ▸ refused))

theorem of_core (blameless : service.BlamelessBut given) (same : after.core = service.core) :
    after.BlamelessBut given :=
  blameless.of_same (congrArg Core.faults same) (congrArg (·.provider.answer) same)

theorem called (blameless : service.BlamelessBut given) (point : FaultPoint) :
    (service.nextFault point).2.BlamelessBut given := by
  unfold Service.nextFault
  split
  next => exact blameless
  next planned rest plan =>
    intro failure raised
    cases raised with
    | planned other listed =>
      dsimp only at listed
      split at listed
      next =>
        refine blameless failure (.planned point ?_)
        rw [plan]
        exact List.mem_cons_of_mem _ listed
      next => exact blameless failure (.planned other listed)
    | answered served request refused => exact blameless failure (.answered served request refused)

theorem fault (blameless : service.BlamelessBut given) {point : FaultPoint} {failure : Failure}
    (planned : (service.nextFault point).1 = some failure) : failure.BlamelessBut given := by
  unfold Service.nextFault at planned
  split at planned
  next => cases planned
  next first rest plan =>
    subst planned
    refine blameless failure (.planned point ?_)
    rw [plan]
    exact List.mem_cons_self

end Service.BlamelessBut

namespace Action.BlamelessBut

variable {given : Failure → Prop} {α β : Type} {action : Action α}

theorem bind {next : α → Action β} (first : action.BlamelessBut given) (rest : ∀ value, (next value).BlamelessBut given) :
    (action >>= next).BlamelessBut given := by
  intro service blameless
  obtain ⟨fails, left⟩ := first service blameless
  rw [run_bind]
  rcases ran : action.run service with ⟨failure | value, between⟩ <;> rw [ran] at fails left
  · exact ⟨fails, left⟩
  · exact rest value between left

/-- A handler may go by what the failure is not. -/
theorem recover {handler : Failure → Action α} (first : action.BlamelessBut given)
    (rest : ∀ failure : Failure, failure.BlamelessBut given → (handler failure).BlamelessBut given) :
    (Action.recover action handler).BlamelessBut given := by
  intro service blameless
  obtain ⟨fails, left⟩ := first service blameless
  rw [run_recover]
  rcases ran : action.run service with ⟨failure | value, between⟩ <;> rw [ran] at fails left
  · exact rest failure fails between left
  · exact ⟨trivial, left⟩

theorem lift {outcome : Outcome α} (blameless : Outcome.Blameless outcome) : (Action.lift outcome).BlamelessBut given :=
  fun _ left => ⟨blameless.but given, left⟩

theorem pure (value : α) : (Pure.pure value : Action α).BlamelessBut given := fun _ left => ⟨trivial, left⟩

theorem fail {failure : Failure} (blameless : failure.BlamelessBut given) :
    (Action.fail failure : Action α).BlamelessBut given :=
  fun _ left => ⟨blameless, left⟩

theorem log (entry : LogEntry) : (Action.log entry).BlamelessBut given :=
  fun _ left => ⟨trivial, left.of_core rfl⟩

theorem read (view : Service → α) : (Action.read view).BlamelessBut given := fun _ left => ⟨trivial, left⟩

theorem pass (point : FaultPoint) : (Action.pass point).BlamelessBut given := by
  intro service blameless
  have left := blameless.called point
  unfold Action.pass
  rw [run_of]
  rcases planned : service.nextFault point with ⟨_ | failure, after⟩ <;> rw [planned] at left
  · exact ⟨trivial, left⟩
  · exact ⟨blameless.fault (congrArg Prod.fst planned), left⟩

theorem converse (store : RemoteStore) {dialogue : Dialogue α} (blameless : dialogue.Blameless) :
    (Action.converse store dialogue).BlamelessBut given := by
  induction dialogue with
  | done outcome => exact .lift blameless
  | remark entry next ih => exact .bind (.log entry) fun _ => ih blameless
  | ask query next ih =>
    refine .bind (fun service left => ?_) fun rows => ih rows (blameless rows)
    rw [run_of]
    split
    next replies held =>
      have replied : Outcome.Blameless (Store.nextReply query.target replies).1 := by
        unfold Store.nextReply
        split <;> trivial
      exact ⟨replied.but given, left.of_same rfl rfl⟩
    next => exact ⟨trivial, left.of_same rfl rfl⟩

theorem perform (op : StoreOp) : (Action.perform op).BlamelessBut given := by
  refine .bind (.pass _) fun _ service left => ?_
  rw [run_of]
  split
  next store held =>
    have logged := left.of_core (service.core_foldl_logged (store.remarks op))
    exact ⟨(Outcome.Blameless.apply store service.now op).but given, logged.of_same rfl rfl⟩
  next store replies held => exact (converse store (.program service.now store op)) service left

theorem ask (request : ProviderRequest) : (Action.ask request).BlamelessBut given := by
  intro service left
  rw [run_ask]
  split
  next =>
    have served : Action.BlamelessBut given (Action.pass (.provider request.method) >>= fun _ => Action.of fun service =>
        ((service.provider.serve request).1, { service with provider := (service.provider.serve request).2 })) := by
      refine .bind (.pass _) fun _ service left => ?_
      rw [run_of]
      unfold Provider.serve
      cases answered : service.provider.answer service.provider.served request with
      | ok value => exact ⟨trivial, left.of_same rfl rfl⟩
      | error failure => exact ⟨left failure (.answered _ request answered), left.of_same rfl rfl⟩
    exact served _ (left.of_core rfl)
  next => exact ⟨.inl trivial, left⟩

theorem askOrRefuse (request : ProviderRequest) (event : String) (fields : Fields) {error : String → BillingError}
    (internal : ∀ reason, (error reason).kind = .internal) :
    (ProviderClient.askOrRefuse request event fields error).BlamelessBut given := by
  refine .recover (.ask request) fun failure blameless => ?_
  split
  next reason reported => exact .bind (.log _) fun _ => .fail (.inl (internal reason))
  next => exact .fail blameless

theorem notify (userId kind : String) (data : Fields) : (Delivery.notify userId kind data).BlamelessBut given := by
  intro service left
  rw [service.run_notify userId kind data]
  exact ⟨trivial, left.of_core (service.core_told userId _)⟩

section Reconciliation

open Reconciliation

variable {event : ReconcileEvent} {user : User} {stated : SubscriptionDetails} {bound : Fields}

theorem guarded (blameless : action.BlamelessBut given) (bound : Fields) (event : ReconcileEvent) :
    (guarded bound event action).BlamelessBut given := by
  refine .recover blameless fun failure kind => ?_
  cases failure with
  | billing error => exact .bind (.log _) fun _ => .fail kind
  | _ => exact .bind (.log _) fun _ => .fail (.inl rfl)

theorem adoptCustomer (event : ReconcileEvent) (user : User) : (adoptCustomer event user).BlamelessBut given := by
  unfold Reconciliation.adoptCustomer
  split
  next => exact .pure user
  next =>
    split
    next => exact .pure user
    next => exact .bind (.perform _) fun _ => .pure _

/-- Only a simulation is told what it lacks. -/
theorem details (unsimulated : event.simulated = false) : (details event).BlamelessBut given := by
  unfold Reconciliation.details
  rw [unsimulated]
  refine .bind (.bind (.askOrRefuse _ _ _ fun _ => rfl) fun _ => .lift (.subscription _)) fun subscription => ?_
  refine .bind ?_ fun _ => .pure _
  unfold period
  dsimp only
  split
  next => exact .pure _
  next =>
    split
    next => exact .pure _
    next =>
      refine .bind (.log _) fun _ => ?_
      split
      next => exact .pure _
      next => exact .fail (.inl rfl)

theorem remarkRegression (bound : Fields) (previous : Option Entitlement) (expiresAt : DateTime) :
    (remarkRegression bound previous expiresAt).BlamelessBut given := by
  unfold Reconciliation.remarkRegression
  cases previous with
  | none => exact .pure ()
  | some previous =>
    refine .bind (.lift (.before _ _)) fun regresses => ?_
    split
    next => exact .log _
    next => exact .pure ()

theorem activate : (activate event user stated bound).BlamelessBut given := by
  unfold Reconciliation.activate
  refine .bind (.lift (.grantOf stated)) fun grant => .bind (.perform _) fun plan => ?_
  cases plan with
  | none => exact .fail (.inl rfl)
  | some plan =>
    refine .bind (.read _) fun now => .bind (.lift (.subscriptionIdOf event now)) fun subscriptionId => ?_
    refine .bind (.perform _) fun previous => .bind (.remarkRegression _ _ _) fun _ => ?_
    refine .bind (.lift (.resetsUsage _ _)) fun usageReset => ?_
    have entered : (Reconciliation.enter event user stated bound ⟨grant, plan, subscriptionId, usageReset⟩).BlamelessBut given :=
      .bind (.lift (.payer event user)) fun _ => .bind (.perform _) fun _ => .bind (.log _) fun _ =>
        .bind (.notify _ _ _) fun _ => .pure _
    split
    next => exact .bind (.perform _) fun _ => entered
    next => exact entered

theorem deactivate : (deactivate user stated bound).BlamelessBut given :=
  .bind (.perform _) fun _ => .bind (.log _) fun _ => .bind (.notify _ _ _) fun _ => .pure _

theorem settle (unsimulated : event.simulated = false) : (settle event user bound).BlamelessBut given := by
  refine .bind (.adoptCustomer event user) fun adopted => .bind (.details unsimulated) fun details => ?_
  split
  next => exact .activate
  next => exact .deactivate
  next => exact .bind (.log _) fun _ => .pure _

theorem skip (event : ReconcileEvent) (reason : String) : (skip event reason).BlamelessBut given :=
  .bind (.log _) fun _ => .pure _

theorem reconcile (unsimulated : event.simulated = false) : (reconcile event).BlamelessBut given := by
  refine .bind (.log _) fun _ => ?_
  split
  next => exact .skip event _
  next =>
    split
    next => exact .skip event _
    next =>
      refine .bind (.guarded (.perform _) _ event) fun resolved => ?_
      cases resolved with
      | none => exact .skip event _
      | some user => exact .guarded (.settle unsimulated) _ event

theorem reconcileCancellation (subscription : Value) : (reconcileCancellation subscription).BlamelessBut given := by
  refine .bind (.lift (.record subscription)) fun fields => ?_
  dsimp only
  split
  next => exact .bind (.log _) fun _ => .pure _
  next =>
    refine .bind (.lift (.idOf _)) fun customer => .bind (.lift (.metadataUserId _)) fun reference => ?_
    have looked : (cancelledUser customer reference).BlamelessBut given := by
      unfold cancelledUser
      split
      next => exact .perform _
      next => exact .pure none
    refine .bind looked fun found => ?_
    cases found with
    | some user => exact .bind (.perform _) fun _ => .bind (.log _) fun _ => .bind (.notify _ _ _) fun _ => .pure _
    | none =>
      refine .bind (.log _) fun _ => .bind (.perform _) fun owner => ?_
      cases owner with
      | none => exact .bind (.log _) fun _ => .pure _
      | some owner => exact .bind (.perform _) fun _ => .bind (.log _) fun _ => .pure _

theorem announced {event : Value} {change : AccessChange} (asks : Webhook.reading event = .ok (some change)) :
    change.action.BlamelessBut given := by
  cases change with
  | event changed => exact .bind (.reconcile (Webhook.unsimulated_of_reading asks)) fun _ => .pure ()
  | cancellation subscription => exact .bind (.reconcileCancellation subscription) fun _ => .pure ()

end Reconciliation

end Action.BlamelessBut

end PaidAccess
