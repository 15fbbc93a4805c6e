import PaidAccess.Proofs.Service.Core
/-!
Runs in which calls fail. An action that is put together from calls, and that passes on every failure, takes
the same course whatever its outlet. Under planned failures it comes to what it comes to without them, or it
fails itself.
-/

namespace PaidAccess

open PaidAccess.Action

def StoreMethod.reads : StoreMethod → Bool
  | .findUser | .findUserByEmail | .findPlanByProduct | .findPlan | .findEntitlement | .findActiveUsage
  | .activeEntitlements => true
  | .assignCustomer | .saveEntitlement | .resetUsage | .openCounter | .spend | .revoke | .revokeSubscription => false

theorem MemoryStore.apply_of_reads {op : StoreOp} (reads : op.method.reads = true) (now : DateTime)
    (store : MemoryStore) : (store.apply now op).2 = store := by
  cases op with
  | findUser | findUserByEmail | findPlanByProduct | findPlan | findEntitlement | findActiveUsage
  | activeEntitlements => rfl
  | assignCustomer | saveEntitlement | resetUsage | openCounter | spend | revoke | revokeSubscription => cases reads

/-- An action that is put together from calls, log entries and messages to users, and that passes on every
failure, perhaps as another one. Unless it may write, it only looks at the store and tells nobody anything. -/
inductive Scripted (writes : Bool) : {α : Type} → Action α → Prop where
  | lift {α : Type} (outcome : Outcome α) : Scripted writes (Action.lift outcome)
  | now : Scripted writes Action.now
  | log (entry : LogEntry) : Scripted writes (Action.log entry)
  | perform (op : StoreOp) (may : writes = true ∨ op.method.reads = true) : Scripted writes (Action.perform op)
  | ask (request : ProviderRequest) : Scripted writes (Action.ask request)
  | notify (may : writes = true) (userId kind : String) (data : Fields) :
      Scripted writes (Delivery.notify userId kind data)
  | bind {α β : Type} {action : Action α} {next : α → Action β} (first : Scripted writes action)
      (second : ∀ value, Scripted writes (next value)) : Scripted writes (action >>= next)
  | rethrow {α : Type} {action : Action α} {handler : Failure → Action α} (first : Scripted writes action)
      (second : ∀ failure, Scripted writes (handler failure))
      (fails : ∀ failure service, ∃ other, ((handler failure).run service).1 = .error other) :
      Scripted writes (Action.recover action handler)

namespace Action.Reaches

variable {α : Type} {action : Action α}

/-- Where the same is reached, the same is left. -/
theorem course {first second : Service} {reach : Outcome α × Core} (reaches : action.Reaches first reach)
    (reachesToo : action.Reaches second reach) {left : MemoryStore} (stays : reach.2.store = .memory left) :
    ∃ outcome after afterToo left, action.run first = (outcome, after) ∧ action.run second = (outcome, afterToo) ∧
      afterToo.core = after.core ∧ after.store = .memory left := by
  obtain ⟨after, ran, core, -⟩ := reaches
  obtain ⟨afterToo, ranToo, coreToo, -⟩ := reachesToo
  exact ⟨reach.1, after, afterToo, left, ran, ranToo, coreToo.trans core.symm, (congrArg Core.store core).trans stays⟩

/-- A call that succeeds does the same without planned failures, if that is so of what it reaches. -/
theorem undisturbed {service calm after : Service} {reach calmReach : Outcome α × Core} {value : α}
    (reaches : action.Reaches service reach) (reachesCalm : action.Reaches calm calmReach)
    (outlet : calm.outlet = service.outlet)
    (calms : reach.1 = .ok value → calmReach = (.ok value, reach.2.calmed) ∧ service.core.Unharmed reach.2)
    (succeeds : action.run service = (.ok value, after)) :
    ∃ calmAfter, action.run calm = (.ok value, calmAfter) ∧ calmAfter.core = after.core.calmed ∧
      calmAfter.outlet = after.outlet ∧ service.core.Unharmed after.core := by
  obtain ⟨there, ran, core, untold⟩ := reaches
  obtain ⟨calmAfter, ranCalm, coreCalm, untoldCalm⟩ := reachesCalm
  rw [ran, Prod.mk.injEq] at succeeds
  obtain ⟨succeeds, rfl⟩ := succeeds
  obtain ⟨rfl, unharmed⟩ := calms succeeds
  exact ⟨calmAfter, ranCalm, by rw [coreCalm, core], untoldCalm.trans (outlet.trans untold.symm), core ▸ unharmed⟩

end Action.Reaches

namespace Scripted

variable {α : Type} {writes : Bool} {action : Action α} {store : MemoryStore}

theorem pure (value : α) : Scripted writes (pure value : Action α) := lift (.ok value)

/-- Services with the same core have the same outcome, and the same core afterwards. A store in memory stays one. -/
theorem course (scripted : Scripted writes action) {first second : Service} (memory : first.store = .memory store)
    (same : second.core = first.core) :
    ∃ outcome after afterToo left, action.run first = (outcome, after) ∧ action.run second = (outcome, afterToo) ∧
      afterToo.core = after.core ∧ after.store = .memory left := by
  induction scripted generalizing first second store with
  | lift outcome => exact ⟨outcome, first, second, store, rfl, rfl, same, memory⟩
  | now =>
    have time : second.now = first.now := congrArg Core.now same
    exact ⟨.ok first.now, first, second, store, rfl, by rw [← time]; rfl, same, memory⟩
  | log entry => exact ⟨.ok (), first.logged entry, second.logged entry, store, rfl, rfl, same, memory⟩
  | perform op _ =>
    have memoryToo : second.store = .memory store := (congrArg Core.store same).trans memory
    obtain ⟨left, stays⟩ := first.core.exists_store_perform memory op
    exact (reaches_perform memory op).course (same ▸ reaches_perform memoryToo op) stays
  | ask request =>
    have stays : (first.core.ask request).2.store = .memory store := (first.core.ask_spares request).1.trans memory
    exact (reaches_ask request first).course (same ▸ reaches_ask request second) stays
  | notify _ userId kind data =>
    refine ⟨_, _, _, store, first.run_notify userId kind data, second.run_notify userId kind data, ?_, ?_⟩
    · rw [Service.core_told, Service.core_told, same]
    · exact (congrArg Core.store (first.core_told userId ⟨kind, data⟩)).trans memory
  | bind _ _ ih ihNext =>
    obtain ⟨outcome, between, betweenToo, left, ran, ranToo, sameBetween, memoryBetween⟩ := ih memory same
    rw [run_bind, run_bind, ran, ranToo]
    cases outcome with
    | error failure => exact ⟨_, between, betweenToo, left, rfl, rfl, sameBetween, memoryBetween⟩
    | ok value => exact ihNext value memoryBetween sameBetween
  | rethrow _ _ _ ih ihHandler =>
    obtain ⟨outcome, between, betweenToo, left, ran, ranToo, sameBetween, memoryBetween⟩ := ih memory same
    rw [run_recover, run_recover, ran, ranToo]
    cases outcome with
    | error failure => exact ihHandler failure memoryBetween sameBetween
    | ok value => exact ⟨_, between, betweenToo, left, rfl, rfl, sameBetween, memoryBetween⟩

/-- A run that succeeds met no planned failure. Without any, the action does the same. -/
theorem undisturbed (scripted : Scripted writes action) {service calm after : Service} {value : α}
    (memory : service.store = .memory store) (core : calm.core = service.core.calmed)
    (outlet : calm.outlet = service.outlet) (succeeds : action.run service = (.ok value, after)) :
    ∃ calmAfter, action.run calm = (.ok value, calmAfter) ∧ calmAfter.core = after.core.calmed ∧
      calmAfter.outlet = after.outlet ∧ service.core.Unharmed after.core := by
  induction scripted generalizing service calm after store with
  | lift outcome =>
    cases succeeds
    exact ⟨calm, rfl, core, outlet, .refl _⟩
  | now =>
    cases succeeds
    have time : calm.now = service.now := congrArg Core.now core
    exact ⟨calm, congrArg (fun now => (Except.ok now, calm)) time, core, outlet, .refl _⟩
  | log entry =>
    cases succeeds
    exact ⟨calm.logged entry, rfl, core, outlet, .refl _⟩
  | perform op _ =>
    have memoryToo : calm.store = .memory store := (congrArg Core.store core).trans memory
    exact (reaches_perform memory op).undisturbed (core ▸ reaches_perform memoryToo op) outlet Core.perform_of_ok succeeds
  | ask request =>
    exact (reaches_ask request service).undisturbed (core ▸ reaches_ask request calm) outlet Core.ask_of_ok succeeds
  | notify _ userId kind data =>
    rw [service.run_notify, Prod.mk.injEq] at succeeds
    obtain ⟨⟨⟩, rfl⟩ := succeeds
    refine ⟨_, calm.run_notify userId kind data, ?_, Service.outlet_told outlet userId ⟨kind, data⟩, ?_⟩
    · rw [Service.core_told, Service.core_told, core]
    · rw [Service.core_told]
      exact .refl _
  | bind first _ ih ihNext =>
    -- both halves succeeded, and the second one begins with a store in memory again
    obtain ⟨outcome, between, -, left, ran, -, -, memoryBetween⟩ := first.course memory rfl
    rw [run_bind, ran] at succeeds
    cases outcome with
    | error failure => cases succeeds
    | ok value =>
      obtain ⟨calmBetween, ranCalm, coreBetween, outletBetween, early⟩ := ih memory core outlet ran
      obtain ⟨calmAfter, ranOn, coreAfter, outletAfter, late⟩ :=
        ihNext value memoryBetween coreBetween outletBetween succeeds
      refine ⟨calmAfter, ?_, coreAfter, outletAfter, early.trans late⟩
      rw [run_bind, ranCalm]
      exact ranOn
  | rethrow first _ fails ih =>
    obtain ⟨outcome, between, -, left, ran, -, -, -⟩ := first.course memory rfl
    rw [run_recover, ran] at succeeds
    cases outcome with
    | error failure =>
      -- a handler only fails, so there was nothing to recover from
      obtain ⟨other, failed⟩ := fails failure between
      dsimp only at succeeds
      rw [succeeds] at failed
      cases failed
    | ok value =>
      cases succeeds
      obtain ⟨calmAfter, ranCalm, rest⟩ := ih memory core outlet ran
      refine ⟨calmAfter, ?_, rest⟩
      rw [run_recover, ranCalm]

end Scripted

/-- Whether a failure that was planned for the calls at a place was met on the way from one service to another. -/
def Service.Met (before after : Service) (point : FaultPoint) : Prop :=
  ∃ used, before.faults point = used ++ after.faults point ∧ ∃ failure, some failure ∈ used

theorem Service.not_met_of_faults_eq {before after : Service} {point : FaultPoint}
    (same : after.faults point = before.faults point) : ¬ before.Met after point := by
  rintro ⟨used, plan, failure, member⟩
  rw [same, List.self_eq_append_left] at plan
  rw [plan] at member
  cases member

theorem Scripted.fails_of_met {α : Type} {writes : Bool} {action : Action α} (scripted : Scripted writes action)
    {service : Service} {store : MemoryStore} (memory : service.store = .memory store) {point : FaultPoint}
    (met : service.Met (action.run service).2 point) : ∃ failure, (action.run service).1 = .error failure := by
  rcases ran : action.run service with ⟨failure | value, after⟩
  · exact ⟨failure, rfl⟩
  · obtain ⟨-, -, -, -, unharmed⟩ := scripted.undisturbed memory service.core_calmed service.outlet_calmed ran
    obtain ⟨passed, same, harmless⟩ := unharmed point
    obtain ⟨used, plan, failure, member⟩ := met
    rw [ran] at plan
    obtain rfl : used = passed := List.append_cancel_right (plan.symm.trans same)
    cases harmless _ member

/-- What holds at the end of a run: one thing of the value that it returns, another of the failure that it raises,
each with the service that is left. -/
structure Action.Ends {α : Type} (action : Action α) (service : Service) (returns : α → Service → Prop)
    (raises : Failure → Service → Prop) : Prop where
  returned : ∀ value after, action.run service = (.ok value, after) → returns value after
  raised : ∀ failure after, action.run service = (.error failure, after) → raises failure after

/-- A service on the way of another one: with this store, with the same clock and the same answers of the provider,
and nobody has been told anything since. -/
structure Service.Beside (service origin : Service) (store : MemoryStore) : Prop where
  memory : service.store = .memory store
  clock : service.now = origin.now
  takes : service.provider.takes = origin.provider.takes
  answer : service.provider.answer = origin.provider.answer
  outlet : service.outlet = origin.outlet

namespace Service.Beside

variable {service origin : Service} {store : MemoryStore} {around : Surroundings}

theorem refl (memory : service.store = .memory store) : service.Beside service store := ⟨memory, rfl, rfl, rfl, rfl⟩

theorem logged (beside : service.Beside origin store) (entry : LogEntry) : (service.logged entry).Beside origin store :=
  ⟨beside.memory, beside.clock, beside.takes, beside.answer, beside.outlet⟩

theorem of_core (beside : service.Beside origin store) {after : Service} {left : MemoryStore} {point : FaultPoint}
    (core : after.core = { service.core.called point with store := .memory left })
    (outlet : after.outlet = service.outlet) : after.Beside origin left where
  memory := congrArg Core.store core
  clock := (congrArg Core.now core).trans beside.clock
  takes := (congrArg (fun core : Core => core.provider.takes) core).trans beside.takes
  answer := (congrArg (fun core : Core => core.provider.answer) core).trans beside.answer
  outlet := outlet.trans beside.outlet

theorem placed {before : MemoryStore} (beside : service.Beside origin store) (placed : origin.calmed.At around before) :
    service.calmed.At around store where
  memory := beside.memory
  clock := beside.clock.trans placed.clock
  calm _ := rfl
  takesSubscription id := (congrFun beside.takes _).trans (placed.takesSubscription id)
  takesPrice id := (congrFun beside.takes _).trans (placed.takesPrice id)
  subscriptions served id := (congrFun (congrFun beside.answer served) _).trans (placed.subscriptions served id)
  prices served id := (congrFun (congrFun beside.answer served) _).trans (placed.prices served id)

end Service.Beside

namespace Action.Ends

variable {α β : Type} {service origin : Service} {store : MemoryStore} {action : Action α}
  {returns : α → Service → Prop} {raises : Failure → Service → Prop}

theorem of_ok {value : α} {after : Service} (ran : action.run service = (.ok value, after))
    (done : returns value after) : action.Ends service returns raises := by
  constructor
  · intro other left ranToo
    cases ran.symm.trans ranToo
    exact done
  · intro failure left ranToo
    cases ran.symm.trans ranToo

theorem of_error {failure : Failure} {after : Service} (ran : action.run service = (.error failure, after))
    (done : raises failure after) : action.Ends service returns raises := by
  constructor
  · intro other left ranToo
    cases ran.symm.trans ranToo
  · intro failure left ranToo
    cases ran.symm.trans ranToo
    exact done

theorem raising (ends : action.Ends service returns raises) {fails : Failure → Service → Prop}
    (raised : ∀ failure after, raises failure after → fails failure after) : action.Ends service returns fails :=
  ⟨ends.returned, fun failure after ran => raised failure after (ends.raised failure after ran)⟩

theorem returning (ends : action.Ends service returns raises) {gives : α → Service → Prop}
    (returned : ∀ value after, returns value after → gives value after) : action.Ends service gives raises :=
  ⟨fun value after ran => returned value after (ends.returned value after ran), ends.raised⟩

theorem lift {outcome : Outcome α} (returned : ∀ value, outcome = .ok value → returns value service)
    (raised : ∀ failure, outcome = .error failure → raises failure service) :
    (Action.lift outcome).Ends service returns raises := by
  cases outcome with
  | ok value => exact of_ok rfl (returned value rfl)
  | error failure => exact of_error rfl (raised failure rfl)

theorem pure {value : α} (done : returns value service) : (Pure.pure value : Action α).Ends service returns raises :=
  of_ok rfl done

theorem log {entry : LogEntry} {returns : Unit → Service → Prop} (done : returns () (service.logged entry)) :
    (Action.log entry).Ends service returns raises :=
  of_ok rfl done

theorem bind {next : α → Action β} {returns : β → Service → Prop}
    (ends : action.Ends service (fun value between => (next value).Ends between returns raises) raises) :
    (action >>= next).Ends service returns raises := by
  rcases ran : action.run service with ⟨failure | value, between⟩
  · exact of_error (by rw [run_bind, ran]) (ends.raised failure between ran)
  · have rest := ends.returned value between ran
    rcases ranOn : (next value).run between with ⟨failure | result, after⟩
    · exact of_error (by rw [run_bind, ran]; exact ranOn) (rest.raised failure after ranOn)
    · exact of_ok (by rw [run_bind, ran]; exact ranOn) (rest.returned result after ranOn)

theorem exists_of_safe (ends : action.Ends service returns fun _ _ => False) :
    ∃ value after, action.run service = (.ok value, after) ∧ returns value after := by
  rcases ran : action.run service with ⟨failure | value, after⟩
  · exact (ends.raised failure after ran).elim
  · exact ⟨value, after, rfl, ends.returned value after ran⟩

theorem left {stays : Service → Prop} (ends : action.Ends service (fun _ => stays) fun _ => stays) :
    stays (action.run service).2 := by
  rcases ran : action.run service with ⟨failure | value, after⟩
  · exact ends.raised failure after ran
  · exact ends.returned value after ran

theorem of_discard {returns : Service → Prop}
    (ends : (discard action).Ends service (fun _ after => returns after) raises) :
    action.Ends service (fun _ after => returns after) raises := by
  have discards : discard action = action >>= fun _ => Pure.pure () := rfl
  constructor
  · intro value after ran
    refine ends.returned () after ?_
    rw [discards, run_bind, ran]
    rfl
  · intro failure after ran
    refine ends.raised failure after ?_
    rw [discards, run_bind, ran]

theorem recover {handler : Failure → Action α}
    (ends : action.Ends service returns fun failure between => (handler failure).Ends between returns raises) :
    (Action.recover action handler).Ends service returns raises := by
  rcases ran : action.run service with ⟨failure | value, between⟩
  · have rest := ends.raised failure between ran
    rcases ranOn : (handler failure).run between with ⟨other | result, after⟩
    · exact of_error (by rw [run_recover, ran]; exact ranOn) (rest.raised other after ranOn)
    · exact of_ok (by rw [run_recover, ran]; exact ranOn) (rest.returned result after ranOn)
  · exact of_ok (by rw [run_recover, ran]) (ends.returned value between ran)

theorem called (beside : service.Beside origin store) {op : StoreOp} {returns : op.Result → Service → Prop}
    (fails : ∀ failure after, service.core.fault (.store op.method) = some failure → after.Beside origin store →
      after.faults = (service.core.called (.store op.method)).faults → raises failure after)
    (carriedOut : ∀ after, service.core.fault (.store op.method) = none →
      after.Beside origin (store.apply origin.now op).2 →
      after.faults = (service.core.called (.store op.method)).faults →
      (∀ value, (store.apply origin.now op).1 = .ok value → returns value after) ∧
        ∀ failure, (store.apply origin.now op).1 = .error failure → raises failure after) :
    (Action.perform op).Ends service returns raises := by
  obtain ⟨after, ran, core, outlet⟩ := reaches_perform beside.memory op
  have time : service.core.now = origin.now := beside.clock
  unfold Core.perform at ran core
  cases planned : service.core.fault (.store op.method) with
  | some failure =>
    rw [planned] at ran core
    have there : after.core = { service.core.called (.store op.method) with store := .memory store } := by
      rw [← beside.memory]
      exact core
    exact of_error ran (fails failure after planned (beside.of_core there outlet) (congrArg Core.faults core))
  | none =>
    rw [planned] at ran core
    rw [time] at ran core
    obtain ⟨returned, raised⟩ := carriedOut after planned (beside.of_core core outlet) (congrArg Core.faults core)
    cases outcome : (store.apply origin.now op).1 with
    | ok value => exact of_ok (outcome ▸ ran) (returned value outcome)
    | error failure => exact of_error (outcome ▸ ran) (raised failure outcome)

theorem perform (beside : service.Beside origin store) {op : StoreOp} {returns : op.Result → Service → Prop}
    (fails : ∀ failure after, after.Beside origin store →
      service.faults (.store op.method) = some failure :: after.faults (.store op.method) →
      (∀ point, point ≠ .store op.method → after.faults point = service.faults point) → raises failure after)
    (returned : ∀ value after, (store.apply origin.now op).1 = .ok value →
      after.Beside origin (store.apply origin.now op).2 →
      (∀ point, point ≠ .store op.method → after.faults point = service.faults point) → returns value after)
    (raised : ∀ failure after, (store.apply origin.now op).1 = .error failure →
      after.Beside origin (store.apply origin.now op).2 →
      (∀ point, point ≠ .store op.method → after.faults point = service.faults point) → raises failure after) :
    (Action.perform op).Ends service returns raises := by
  have spared : ∀ point, point ≠ .store op.method →
      (service.core.called (.store op.method)).faults point = service.faults point := fun point different =>
    service.core.faults_called_of_ne different
  refine .called beside (fun failure after planned there faults => ?_) fun after _ there faults => ⟨?_, ?_⟩
  · exact fails failure after there (faults ▸ Core.faults_of_fault planned) (faults ▸ spared)
  · exact fun value outcome => returned value after outcome there (faults ▸ spared)
  · exact fun failure outcome => raised failure after outcome there (faults ▸ spared)

theorem inspect (beside : service.Beside origin store) {op : StoreOp} {returns : op.Result → Service → Prop}
    (reads : op.method.reads = true)
    (returned : ∀ value after, (store.apply origin.now op).1 = .ok value → after.Beside origin store →
      (∀ method : StoreMethod, method.reads = false → after.faults (.store method) = service.faults (.store method)) →
      returns value after)
    (raised : ∀ failure after, after.Beside origin store →
      (∀ method : StoreMethod, method.reads = false → after.faults (.store method) = service.faults (.store method)) →
      raises failure after) :
    (Action.perform op).Ends service returns raises := by
  have elsewhere : ∀ method : StoreMethod, method.reads = false → FaultPoint.store method ≠ .store op.method := by
    rintro method writes ⟨⟩
    rw [reads] at writes
    cases writes
  have same := MemoryStore.apply_of_reads reads origin.now store
  refine .perform beside (fun failure after there _ spared => ?_) (fun value after outcome there spared => ?_)
    fun failure after _ there spared => ?_
  · exact raised failure after there fun method writes => spared _ (elsewhere method writes)
  · exact returned value after outcome (same ▸ there) fun method writes => spared _ (elsewhere method writes)
  · exact raised failure after (same ▸ there) fun method writes => spared _ (elsewhere method writes)

theorem now {returns : DateTime → Service → Prop} (done : returns service.now service) :
    Action.now.Ends service returns raises :=
  of_ok rfl done

theorem notify {userId kind : String} {data : Fields} {returns : Unit → Service → Prop}
    (done : returns () (service.told userId ⟨kind, data⟩)) :
    (Delivery.notify userId kind data).Ends service returns raises :=
  of_ok (service.run_notify userId kind data) done

end Action.Ends

/-- An action that leaves everything as it was but the journal and the plans for calls that only look, whatever
comes of it. -/
def Quiet {α : Type} (action : Action α) : Prop :=
  ∀ {service origin : Service} {store : MemoryStore}, service.Beside origin store →
    (action.run service).2.Beside origin store ∧
      ∀ method : StoreMethod, method.reads = false →
        (action.run service).2.faults (.store method) = service.faults (.store method)

theorem Scripted.quiet {α : Type} {action : Action α} (scripted : Scripted false action) : Quiet action := by
  induction scripted with
  | lift outcome => exact fun beside => ⟨beside, fun _ _ => rfl⟩
  | now => exact fun beside => ⟨beside, fun _ _ => rfl⟩
  | log entry => exact fun beside => ⟨beside.logged entry, fun _ _ => rfl⟩
  | perform op may =>
    intro service origin store beside
    have ends : (Action.perform op).Ends service
        (fun _ after => after.Beside origin store ∧ ∀ method : StoreMethod, method.reads = false →
          after.faults (.store method) = service.faults (.store method))
        (fun _ after => after.Beside origin store ∧ ∀ method : StoreMethod, method.reads = false →
          after.faults (.store method) = service.faults (.store method)) :=
      .inspect beside (may.resolve_left (nomatch ·)) (fun _ _ _ there spared => ⟨there, spared⟩)
        fun _ _ there spared => ⟨there, spared⟩
    exact ends.left
  | ask request =>
    intro service origin store beside
    obtain ⟨after, ran, core, outlet⟩ := reaches_ask request service
    obtain ⟨same, time, takes, answer⟩ := service.core.ask_spares request
    rw [← core] at same time takes answer
    rw [ran]
    refine ⟨⟨same.trans beside.memory, time.trans beside.clock, takes.trans beside.takes, answer.trans beside.answer,
      outlet.trans beside.outlet⟩, fun method _ => ?_⟩
    exact (congrArg (fun core : Core => core.faults (.store method)) core).trans
      (service.core.faults_ask_of_ne (nomatch ·))
  | notify may => cases may
  | bind _ _ ih ihNext =>
    intro service origin store beside
    have there := ih beside
    rw [run_bind]
    rcases ran : Action.run _ service with ⟨failure | value, between⟩ <;> rw [ran] at there
    · exact there
    · have arrived := ihNext value there.1
      exact ⟨arrived.1, fun method writes => (arrived.2 method writes).trans (there.2 method writes)⟩
  | rethrow _ _ _ ih ihHandler =>
    intro service origin store beside
    have there := ih beside
    rw [run_recover]
    rcases ran : Action.run _ service with ⟨failure | value, between⟩ <;> rw [ran] at there
    · have arrived := ihHandler failure there.1
      exact ⟨arrived.1, fun method writes => (arrived.2 method writes).trans (there.2 method writes)⟩
    · exact there

theorem Action.Ends.of_quiet {α : Type} {action : Action α} (quiet : Quiet action)
    {service origin : Service} {store : MemoryStore} (beside : service.Beside origin store)
    {returns : α → Service → Prop} {raises : Failure → Service → Prop}
    (returned : ∀ value after, action.run service = (.ok value, after) → after.Beside origin store →
      (∀ method : StoreMethod, method.reads = false → after.faults (.store method) = service.faults (.store method)) →
      returns value after)
    (raised : ∀ failure after, after.Beside origin store → raises failure after) :
    action.Ends service returns raises := by
  have there := quiet beside
  rcases ran : action.run service with ⟨failure | value, after⟩ <;> rw [ran] at there
  · exact .of_error ran (raised failure after there.1)
  · exact .of_ok ran (returned value after ran there.1 there.2)

end PaidAccess
