import PaidAccess.Proofs.Service.Evaluation
/-!
What decides the course of an action, and what it cannot see. The core of a service is the time, the store, the
provider and the failures that are planned; a call depends on it alone. Messages to users leave through an
outlet, which no call looks at.
-/

namespace PaidAccess

/-- What decides the course of an action. -/
structure Core where
  now : DateTime
  store : Store
  provider : Provider
  faults : FaultPoint → List (Option Failure)

/-- What messages to users leave through: the way they are delivered, who is connected, and what has been
delivered. -/
structure Outlet where
  notifier : Notifier
  links : Links
  registry : Registry
  deliveries : List Delivery

namespace Core

def fault (core : Core) (point : FaultPoint) : Option Failure := (core.faults point).head?.join

def called (core : Core) (point : FaultPoint) : Core :=
  { core with faults := fun other => if other = point then (core.faults point).tail else core.faults other }

def calmed (core : Core) : Core := { core with faults := fun _ => [] }

def perform (core : Core) (store : MemoryStore) (op : StoreOp) : Outcome op.Result × Core :=
  match core.fault (.store op.method) with
  | some failure => (.error failure, core.called (.store op.method))
  | none => ((store.apply core.now op).1,
      { core.called (.store op.method) with store := .memory (store.apply core.now op).2 })

def ask (core : Core) (request : ProviderRequest) : Outcome Value × Core :=
  if core.provider.takes request then
    match core.fault (.provider request.method) with
    | some failure => (.error failure, core.called (.provider request.method))
    | none => ((core.provider.serve request).1,
        { core.called (.provider request.method) with provider := (core.provider.serve request).2 })
  else (.error .mismatch, core)

/-- Whether all calls between two cores were let through. -/
def Unharmed (before after : Core) : Prop :=
  ∀ point, ∃ used, before.faults point = used ++ after.faults point ∧ ∀ planned ∈ used, planned = none

theorem calmed_called (core : Core) (point : FaultPoint) : core.calmed.called point = core.calmed := by
  unfold called calmed
  congr 1
  funext other
  split <;> rfl

theorem faults_called_self (core : Core) (point : FaultPoint) :
    (core.called point).faults point = (core.faults point).tail :=
  if_pos rfl

theorem faults_called_of_ne (core : Core) {point other : FaultPoint} (different : other ≠ point) :
    (core.called point).faults other = core.faults other :=
  if_neg different

theorem faults_of_fault {core : Core} {point : FaultPoint} {failure : Failure}
    (planned : core.fault point = some failure) : core.faults point = some failure :: (core.called point).faults point := by
  unfold fault at planned
  rw [faults_called_self]
  cases plan : core.faults point with
  | nil => simp [plan] at planned
  | cons first rest =>
    rw [plan, List.head?_cons, Option.join_some] at planned
    rw [planned, List.tail_cons]

theorem Unharmed.refl (core : Core) : core.Unharmed core := fun _ => ⟨[], rfl, fun _ member => nomatch member⟩

theorem Unharmed.trans {first second third : Core} (before : first.Unharmed second) (after : second.Unharmed third) :
    first.Unharmed third := by
  intro point
  obtain ⟨early, earlier, passed⟩ := before point
  obtain ⟨late, later, passedToo⟩ := after point
  refine ⟨early ++ late, by rw [earlier, later, List.append_assoc], fun planned member => ?_⟩
  exact (List.mem_append.mp member).elim (passed planned) (passedToo planned)

theorem unharmed_called {core : Core} {point : FaultPoint} (passes : core.fault point = none) :
    core.Unharmed (core.called point) := by
  intro other
  by_cases same : other = point
  · subst same
    cases plan : core.faults other with
    | nil => exact ⟨[], by simp [called, plan], fun _ member => nomatch member⟩
    | cons first rest =>
      refine ⟨[first], by simp [called, plan], fun planned member => ?_⟩
      rw [List.mem_singleton.mp member]
      simpa [fault, plan] using passes
  · exact ⟨[], by simp [called, same], fun _ member => nomatch member⟩

theorem exists_store_perform (core : Core) {store : MemoryStore} (memory : core.store = .memory store) (op : StoreOp) :
    ∃ left, (core.perform store op).2.store = .memory left := by
  unfold perform
  split
  next => exact ⟨store, memory⟩
  next => exact ⟨_, rfl⟩

theorem ask_spares (core : Core) (request : ProviderRequest) :
    (core.ask request).2.store = core.store ∧ (core.ask request).2.now = core.now ∧
      (core.ask request).2.provider.takes = core.provider.takes ∧
      (core.ask request).2.provider.answer = core.provider.answer := by
  unfold ask Provider.serve
  split
  next =>
    split
    next => exact ⟨rfl, rfl, rfl, rfl⟩
    next => split <;> exact ⟨rfl, rfl, rfl, rfl⟩
  next => exact ⟨rfl, rfl, rfl, rfl⟩

theorem faults_ask_of_ne (core : Core) {request : ProviderRequest} {point : FaultPoint}
    (different : point ≠ .provider request.method) : (core.ask request).2.faults point = core.faults point := by
  unfold ask
  split
  next => split <;> exact core.faults_called_of_ne different
  next => rfl

theorem perform_of_ok {core : Core} {store : MemoryStore} {op : StoreOp} {value : op.Result}
    (succeeds : (core.perform store op).1 = .ok value) :
    core.calmed.perform store op = (.ok value, (core.perform store op).2.calmed) ∧
      core.Unharmed (core.perform store op).2 := by
  unfold perform at succeeds ⊢
  cases planned : core.fault (.store op.method) with
  | some failure =>
    rw [planned] at succeeds
    cases succeeds
  | none =>
    rw [planned] at succeeds
    refine ⟨?_, fun point => unharmed_called planned point⟩
    rw [calmed_called]
    exact Prod.ext succeeds rfl

theorem ask_of_ok {core : Core} {request : ProviderRequest} {value : Value}
    (succeeds : (core.ask request).1 = .ok value) :
    core.calmed.ask request = (.ok value, (core.ask request).2.calmed) ∧ core.Unharmed (core.ask request).2 := by
  have interface : core.calmed.provider = core.provider := rfl
  unfold ask at succeeds ⊢
  rw [interface]
  cases taken : core.provider.takes request with
  | false =>
    rw [taken] at succeeds
    cases succeeds
  | true =>
    rw [taken] at succeeds
    cases planned : core.fault (.provider request.method) with
    | some failure =>
      rw [planned] at succeeds
      cases succeeds
    | none =>
      rw [planned] at succeeds
      refine ⟨?_, fun point => unharmed_called planned point⟩
      rw [calmed_called]
      exact Prod.ext succeeds rfl

end Core

namespace Service

def core (service : Service) : Core := ⟨service.now, service.store, service.provider, service.faults⟩

def outlet (service : Service) : Outlet :=
  ⟨service.deployment.notifier, service.links, service.registry, service.journal.deliveries⟩

def through (service : Service) (outlet : Outlet) : Service :=
  { service with
    deployment := { service.deployment with notifier := outlet.notifier }
    links := outlet.links
    registry := outlet.registry
    journal := { service.journal with deliveries := outlet.deliveries } }

def calmed (service : Service) : Service := { service with faults := fun _ => [] }

@[simp] theorem core_calmed (service : Service) : service.calmed.core = service.core.calmed := rfl

@[simp] theorem outlet_calmed (service : Service) : service.calmed.outlet = service.outlet := rfl

@[simp] theorem core_through (service : Service) (outlet : Outlet) : (service.through outlet).core = service.core := rfl

theorem core_foldl_logged (service : Service) (entries : List LogEntry) :
    (entries.foldl logged service).core = service.core := by
  induction entries generalizing service with
  | nil => rfl
  | cons entry rest ih => exact ih (service.logged entry)

theorem store_foldl_logged (service : Service) (entries : List LogEntry) :
    (entries.foldl logged service).store = service.store :=
  congrArg Core.store (service.core_foldl_logged entries)

theorem memory?_eq {service : Service} {store : MemoryStore} (memory : service.store = .memory store) :
    service.memory? = some store := by
  rw [memory?, memory]

theorem journal_foldl_logged (service : Service) (entries : List LogEntry) :
    (entries.foldl logged service).journal.requests = service.journal.requests ∧
      (entries.foldl logged service).journal.queries = service.journal.queries := by
  induction entries generalizing service with
  | nil => exact ⟨rfl, rfl⟩
  | cons entry rest ih => exact ih (service.logged entry)

theorem outlet_foldl_logged (service : Service) (entries : List LogEntry) :
    (entries.foldl logged service).outlet = service.outlet := by
  induction entries generalizing service with
  | nil => rfl
  | cons entry rest ih => exact ih (service.logged entry)

theorem nextFault_eq (service : Service) (point : FaultPoint) :
    (service.nextFault point).1 = service.core.fault point ∧
      (service.nextFault point).2.core = service.core.called point ∧
      (service.nextFault point).2.outlet = service.outlet := by
  unfold nextFault Core.fault Core.called
  cases planned : service.faults point with
  | nil =>
    refine ⟨by simp [core, planned], ?_, rfl⟩
    simp only [core, planned, List.tail_nil, Core.mk.injEq, true_and]
    funext other
    split
    next same => rw [same, planned]
    next => rfl
  | cons first rest => exact ⟨by simp [core, planned], by simp [core, planned], rfl⟩

end Service

namespace Action

variable {α β : Type} {service : Service} {store : MemoryStore}

/-- Whether an action comes to an outcome and leaves a core, and the outlet has no part in it. -/
def Reaches (action : Action α) (service : Service) (reach : Outcome α × Core) : Prop :=
  ∃ after, action.run service = (reach.1, after) ∧ after.core = reach.2 ∧ after.outlet = service.outlet

theorem run_pass (point : FaultPoint) (service : Service) :
    (pass point).run service =
      (match service.core.fault point with
        | some failure => .error failure
        | none => .ok (), (service.nextFault point).2) := by
  rw [← (service.nextFault_eq point).1, pass, run_of]
  rcases service.nextFault point with ⟨planned | planned, after⟩ <;> rfl

theorem reaches_perform (memory : service.store = .memory store) (op : StoreOp) :
    (perform op).Reaches service (service.core.perform store op) := by
  obtain ⟨-, core, outlet⟩ := service.nextFault_eq (.store op.method)
  unfold Reaches perform Core.perform
  rw [run_bind, run_pass]
  cases planned : service.core.fault (.store op.method) with
  | some failure => exact ⟨_, rfl, core, outlet⟩
  | none =>
    have here : (service.nextFault (.store op.method)).2.store = .memory store :=
      (congrArg Core.store core).trans memory
    have time : (service.nextFault (.store op.method)).2.now = service.now := congrArg Core.now core
    refine ⟨{ (store.remarks op).foldl Service.logged (service.nextFault (.store op.method)).2 with
      store := .memory (store.apply service.now op).2 }, ?_, ?_, ?_⟩
    · dsimp only
      rw [run_of, here, time]
      rfl
    · rw [← core, ← (service.nextFault (.store op.method)).2.core_foldl_logged (store.remarks op)]
      rfl
    · exact (Service.outlet_foldl_logged _ (store.remarks op)).trans outlet

theorem run_ask (request : ProviderRequest) (service : Service) :
    (ask request).run service =
      if service.provider.takes request then
        (pass (.provider request.method) >>= fun _ => of fun service =>
          ((service.provider.serve request).1, { service with provider := (service.provider.serve request).2 })).run
            (service.requested request)
      else (.error .mismatch, service) := by
  unfold ask
  rw [run_bind]
  change ((if !service.provider.takes request then _ else _ : Action Value)).run service = _
  cases service.provider.takes request <;> rfl

theorem reaches_ask (request : ProviderRequest) (service : Service) :
    (ask request).Reaches service (service.core.ask request) := by
  obtain ⟨-, core, outlet⟩ := (service.requested request).nextFault_eq (.provider request.method)
  have same : (service.requested request).core = service.core := rfl
  have interface : service.core.provider = service.provider := rfl
  unfold Reaches Core.ask
  rw [run_ask, interface]
  cases service.provider.takes request with
  | false => exact ⟨service, rfl, rfl, rfl⟩
  | true =>
    rw [if_pos rfl, if_pos rfl, run_bind, run_pass, same]
    cases planned : service.core.fault (.provider request.method) with
    | some failure => exact ⟨_, rfl, core, outlet⟩
    | none =>
      have there : ((service.requested request).nextFault (.provider request.method)).2.provider = service.provider :=
        congrArg Core.provider core
      refine ⟨{ ((service.requested request).nextFault (.provider request.method)).2 with
        provider := (service.provider.serve request).2 }, ?_, ?_, outlet⟩
      · dsimp only
        rw [run_of, there]
      · rw [← same, ← core]
        rfl

theorem run_openEvent (payload : String) (signature : Value) (service : Service) :
    (ProviderClient.openEvent payload signature).run service =
      if service.deployment.provider.webhookSecret = "" then
        (.error (.rejected "Stripe webhook secret is not configured"), service)
      else if !signature.truthy then (.error (.rejected "Missing Stripe-Signature header"), service)
      else
        (ask (.openEvent payload signature service.deployment.provider.webhookSecret service.deployment.tolerance) >>=
          fun answer => lift (Payload.contents answer)).run service := by
  have looked : (read (·.deployment.provider)).run service = (.ok service.deployment.provider, service) := rfl
  unfold ProviderClient.openEvent
  rw [run_bind, looked]
  dsimp only
  split
  next => rfl
  next => split <;> rfl

end Action

/-- An action on the outlet: what it comes to is a function of the outlet, and it leaves the core alone. -/
def Outward {α : Type} (action : Action α) : Prop :=
  ∃ reach : Outlet → Outcome α × Outlet, ∀ service : Service, ∃ after,
    action.run service = ((reach service.outlet).1, after) ∧ after.outlet = (reach service.outlet).2 ∧
      after.core = service.core

namespace Outward

open PaidAccess.Action

variable {α β : Type}

theorem lift (outcome : Outcome α) : Outward (Action.lift outcome) :=
  ⟨fun outlet => (outcome, outlet), fun service => ⟨service, rfl, rfl, rfl⟩⟩

theorem log (entry : LogEntry) : Outward (Action.log entry) :=
  ⟨fun outlet => (.ok (), outlet), fun service => ⟨service.logged entry, rfl, rfl, rfl⟩⟩

theorem read (view : Outlet → α) : Outward (Action.read fun service => view service.outlet) :=
  ⟨fun outlet => (.ok (view outlet), outlet), fun service => ⟨service, rfl, rfl, rfl⟩⟩

theorem bind {action : Action α} {next : α → Action β} (first : Outward action)
    (second : ∀ value, Outward (next value)) : Outward (action >>= next) := by
  obtain ⟨reach, reaches⟩ := first
  refine ⟨fun outlet => match reach outlet with
    | (.ok value, between) => (second value).choose between
    | (.error failure, between) => (.error failure, between), fun service => ?_⟩
  obtain ⟨between, ran, outlet, core⟩ := reaches service
  rw [run_bind, ran]
  dsimp only
  revert outlet
  rcases reach service.outlet with ⟨failure | value, reached⟩ <;> intro outlet
  · exact ⟨between, rfl, outlet, core⟩
  · obtain ⟨after, ranOn, arrived, coreToo⟩ := (second value).choose_spec between
    rw [outlet] at ranOn arrived
    exact ⟨after, ranOn, arrived, coreToo.trans core⟩

theorem recover {action : Action α} {handler : Failure → Action α} (first : Outward action)
    (second : ∀ failure, Outward (handler failure)) : Outward (Action.recover action handler) := by
  obtain ⟨reach, reaches⟩ := first
  refine ⟨fun outlet => match reach outlet with
    | (.ok value, between) => (.ok value, between)
    | (.error failure, between) => (second failure).choose between, fun service => ?_⟩
  obtain ⟨between, ran, outlet, core⟩ := reaches service
  rw [run_recover, ran]
  dsimp only
  revert outlet
  rcases reach service.outlet with ⟨failure | value, reached⟩ <;> intro outlet
  · obtain ⟨after, ranOn, arrived, coreToo⟩ := (second failure).choose_spec between
    rw [outlet] at ranOn arrived
    exact ⟨after, ranOn, arrived, coreToo.trans core⟩
  · exact ⟨between, rfl, outlet, core⟩

theorem sendTo (connection : Connection) (notice : Notice) : Outward (Delivery.sendTo connection notice) := by
  refine ⟨fun outlet =>
    if outlet.links.fails connection then
      (.error (.runtime "connection closed"), { outlet with links := outlet.links.tried connection })
    else
      (.ok (), { outlet with
        links := outlet.links.tried connection
        deliveries := outlet.deliveries ++ [.message connection notice] }), fun service => ?_⟩
  have links : service.outlet.links = service.links := rfl
  unfold Delivery.sendTo
  rw [run_of]
  dsimp only
  rw [links]
  split <;> exact ⟨_, rfl, rfl, rfl⟩

theorem unregister (userId : String) (connection : Connection) : Outward (Delivery.unregister userId connection) :=
  bind ⟨fun outlet => (.ok (), { outlet with registry := outlet.registry.unregister userId connection }),
    fun _ => ⟨_, rfl, rfl, rfl⟩⟩ fun _ => log _

theorem attempt (userId : String) (notice : Notice) (connection : Connection) :
    Outward (Delivery.attempt userId notice connection) :=
  recover (bind (sendTo connection notice) fun _ => lift (.ok 1)) fun _ =>
    bind (log _) fun _ => bind (unregister userId connection) fun _ => lift (.ok 0)

theorem sendToAll (userId : String) (notice : Notice) (connections : List Connection) :
    Outward (Delivery.sendToAll userId notice connections) := by
  induction connections with
  | nil => exact lift (.ok 0)
  | cons connection rest ih =>
    exact bind (attempt userId notice connection) fun here => bind ih fun others => lift (.ok (here + others))

theorem send (userId : String) (notice : Notice) : Outward (Delivery.send userId notice) := by
  refine bind (read (·.notifier)) fun notifier => ?_
  cases notifier with
  | registry => exact bind (read (·.registry.lookup userId)) fun _ => sendToAll userId notice _
  | silent => exact lift (.ok 0)
  | broken => exact lift _

theorem notify (userId kind : String) (data : Fields) : Outward (Delivery.notify userId kind data) :=
  recover (bind (send userId _) fun _ => lift (.ok ())) fun _ => log _

end Outward

namespace Service

def told (service : Service) (userId : String) (notice : Notice) : Service :=
  ((Delivery.notify userId notice.kind notice.data).run service).2

theorem run_notify (service : Service) (userId kind : String) (data : Fields) :
    (Delivery.notify userId kind data).run service = (.ok (), service.told userId ⟨kind, data⟩) := by
  unfold told Delivery.notify
  rw [Action.run_recover]
  rcases Action.run _ service with ⟨failure | value, after⟩ <;> rfl

theorem core_told (service : Service) (userId : String) (notice : Notice) :
    (service.told userId notice).core = service.core := by
  obtain ⟨reach, reaches⟩ := Outward.notify userId notice.kind notice.data
  obtain ⟨after, ran, -, core⟩ := reaches service
  rw [told, ran]
  exact core

theorem outlet_told {first second : Service} (same : first.outlet = second.outlet) (userId : String) (notice : Notice) :
    (first.told userId notice).outlet = (second.told userId notice).outlet := by
  obtain ⟨reach, reaches⟩ := Outward.notify userId notice.kind notice.data
  obtain ⟨after, ran, arrived, -⟩ := reaches first
  obtain ⟨afterToo, ranToo, arrivedToo, -⟩ := reaches second
  rw [told, told, ran, ranToo]
  calc
    after.outlet = (reach first.outlet).2 := arrived
    _ = (reach second.outlet).2 := by rw [same]
    _ = afterToo.outlet := arrivedToo.symm

end Service

end PaidAccess
