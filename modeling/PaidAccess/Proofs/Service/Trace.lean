import PaidAccess.Proofs.Service.Interruption
/-!
What has come of a run beside what the store holds: the requests that were sent to the provider, those that the provider
answered, and the activations that wait. A call of the store adds nothing to it. A request that fails on its way is
sent, but it leaves no trace at the provider.
-/

namespace PaidAccess

open PaidAccess.Action

/-- What has come of a run so far. Only what was sent is answered. -/
structure Trace where
  sent : List ProviderRequest
  answered : List ProviderRequest
  scheduled : List Simulation
  heard : answered.Sublist sent

namespace Trace

def empty : Trace := ⟨[], [], [], .refl []⟩

variable (trace : Trace)

def asking (request : ProviderRequest) : Trace :=
  { trace with sent := trace.sent ++ [request], heard := trace.heard.trans (List.sublist_append_left _ _) }

def hearing (request : ProviderRequest) : Trace :=
  { trace with
    sent := trace.sent ++ [request]
    answered := trace.answered ++ [request]
    heard := trace.heard.append (.refl _) }

def awaiting (simulation : Simulation) : Trace := { trace with scheduled := trace.scheduled ++ [simulation] }

end Trace

/-- A service on the way of another one, with this store and with what has come of the run so far. -/
structure Service.Traced (service origin : Service) (store : MemoryStore) (trace : Trace) : Prop where
  beside : service.Beside origin store
  deployment : service.deployment = origin.deployment
  context : service.context = origin.context
  sent : service.journal.requests = origin.journal.requests ++ trace.sent
  answered : service.provider.served = origin.provider.served ++ trace.answered
  scheduled : service.simulations = origin.simulations ++ trace.scheduled

namespace Action.Ends

variable {α : Type} {service : Service} {action : Action α} {returns : α → Service → Prop}
  {raises : Failure → Service → Prop}

theorem of_run_eq {other : Action α} {between : Service} (same : action.run service = other.run between)
    (ends : other.Ends between returns raises) : action.Ends service returns raises :=
  ⟨fun value after ran => ends.returned value after (same ▸ ran),
    fun failure after ran => ends.raised failure after (same ▸ ran)⟩

theorem read {view : Service → α} (done : returns (view service) service) :
    (Action.read view).Ends service returns raises :=
  .of_ok rfl done

end Action.Ends

namespace Service.Traced

variable {service origin : Service} {store : MemoryStore} {trace : Trace}

theorem refl (memory : service.store = .memory store) : service.Traced service store .empty where
  beside := .refl memory
  deployment := rfl
  context := rfl
  sent := (List.append_nil _).symm
  answered := (List.append_nil _).symm
  scheduled := (List.append_nil _).symm

variable (traced : service.Traced origin store trace)

include traced

theorem logged (entry : LogEntry) : (service.logged entry).Traced origin store trace :=
  { traced with beside := traced.beside.logged entry }

theorem foldl_logged (entries : List LogEntry) : (entries.foldl Service.logged service).Traced origin store trace := by
  induction entries generalizing service with
  | nil => exact traced
  | cons entry rest ih => exact ih (traced.logged entry)

theorem nextFault (point : FaultPoint) : (service.nextFault point).2.Traced origin store trace := by
  unfold Service.nextFault
  split
  next => exact traced
  next => exact { traced with beside := { traced.beside with } }

theorem stored (left : MemoryStore) : ({ service with store := .memory left } : Service).Traced origin left trace :=
  { traced with beside := { traced.beside with memory := rfl } }

theorem requested (request : ProviderRequest) :
    (service.requested request).Traced origin store (trace.asking request) where
  beside := { traced.beside with }
  deployment := traced.deployment
  context := traced.context
  sent := by
    rw [Trace.asking, ← List.append_assoc, ← traced.sent]
    rfl
  answered := traced.answered
  scheduled := traced.scheduled

theorem awaiting (simulation : Simulation) :
    ({ service with simulations := service.simulations ++ [simulation] } : Service).Traced origin store
      (trace.awaiting simulation) where
  beside := { traced.beside with }
  deployment := traced.deployment
  context := traced.context
  sent := traced.sent
  answered := traced.answered
  scheduled := by
    rw [Trace.awaiting, ← List.append_assoc, ← traced.scheduled]

omit traced in
theorem served {request : ProviderRequest} (asked : service.Traced origin store (trace.asking request)) :
    ({ service with provider := { service.provider with served := service.provider.served ++ [request] } } :
      Service).Traced origin store (trace.hearing request) where
  beside := { asked.beside with }
  deployment := asked.deployment
  context := asked.context
  sent := asked.sent
  answered := by
    rw [Trace.hearing, ← List.append_assoc]
    exact congrArg (· ++ [request]) asked.answered
  scheduled := asked.scheduled

section Ends

variable {op : StoreOp} {request : ProviderRequest} {raises : Failure → Service → Prop}

theorem pass {point : FaultPoint} {returns : Unit → Service → Prop}
    (planned : ∀ failure after, after.Traced origin store trace → raises failure after)
    (passed : ∀ after, after.Traced origin store trace → returns () after) :
    (Action.pass point).Ends service returns raises := by
  have there := traced.nextFault point
  have ran := run_pass point service
  cases fault : service.core.fault point with
  | some failure =>
    rw [fault] at ran
    exact .of_error ran (planned failure _ there)
  | none =>
    rw [fault] at ran
    exact .of_ok ran (passed _ there)

theorem call {returns : op.Result → Service → Prop}
    (returned : ∀ value after, (store.apply origin.now op).1 = .ok value →
      after.Traced origin (store.apply origin.now op).2 trace → returns value after)
    (planned : ∀ failure after, after.Traced origin store trace → raises failure after)
    (raised : ∀ failure after, (store.apply origin.now op).1 = .error failure →
      after.Traced origin (store.apply origin.now op).2 trace → raises failure after) :
    (perform op).Ends service returns raises := by
  refine .bind (traced.pass planned fun between there => ?_)
  have carriedOut := (there.foldl_logged (store.remarks op)).stored (store.apply origin.now op).2
  cases outcome : (store.apply origin.now op).1 with
  | ok value =>
    refine .of_ok ?_ (returned value _ outcome carriedOut)
    rw [run_of, there.beside.memory, there.beside.clock, ← outcome]
  | error failure =>
    refine .of_error ?_ (raised failure _ outcome carriedOut)
    rw [run_of, there.beside.memory, there.beside.clock, ← outcome]

theorem look (reads : op.method.reads = true) {returns : op.Result → Service → Prop}
    (returned : ∀ value after, (store.apply origin.now op).1 = .ok value → after.Traced origin store trace →
      returns value after)
    (raised : ∀ failure after, after.Traced origin store trace → raises failure after) :
    (perform op).Ends service returns raises := by
  have same := MemoryStore.apply_of_reads reads origin.now store
  refine traced.call (fun value after outcome there => ?_) raised fun failure after _ there => ?_
  · exact returned value after outcome (same ▸ there)
  · exact raised failure after (same ▸ there)

/-- A request is answered as the provider answers it after what was answered on the way, or it fails. One that the
provider does not take is not even sent. -/
theorem ask {returns : Value → Service → Prop}
    (returned : ∀ answer after,
      origin.provider.answer (origin.provider.served ++ trace.answered) request = .ok answer →
      after.Traced origin store (trace.hearing request) → returns answer after)
    (raised : ∀ failure after asked, asked = trace ∨ asked = trace.asking request →
      after.Traced origin store asked → raises failure after) :
    (Action.ask request).Ends service returns raises := by
  have sent := run_ask request service
  split at sent
  next taken =>
    refine .of_run_eq sent (.bind ((traced.requested request).pass ?_ fun between there => ?_))
    · exact fun failure after there => raised failure after _ (.inr rfl) there
    · have asked : between.provider.answer between.provider.served request =
          origin.provider.answer (origin.provider.served ++ trace.answered) request := by
        rw [there.beside.answer, there.answered]
        rfl
      cases outcome : between.provider.answer between.provider.served request with
      | ok answer =>
        refine .of_ok ?_ (returned answer _ (asked ▸ outcome) there.served)
        rw [run_of, Provider.serve, outcome]
      | error failure =>
        refine .of_error ?_ (raised failure between _ (.inr rfl) there)
        rw [run_of, Provider.serve, outcome]
  next => exact .of_error sent (raised .mismatch service trace (.inl rfl) traced)

theorem askOrRefuse {event : String} {fields : Fields} {error : String → BillingError} {returns : Value → Service → Prop}
    (returned : ∀ answer after,
      origin.provider.answer (origin.provider.served ++ trace.answered) request = .ok answer →
      after.Traced origin store (trace.hearing request) → returns answer after)
    (raised : ∀ failure after asked, asked = trace ∨ asked = trace.asking request →
      after.Traced origin store asked → raises failure after) :
    (ProviderClient.askOrRefuse request event fields error).Ends service returns raises := by
  refine .recover (traced.ask returned fun failure after asked which there => ?_)
  cases failure.fromProvider? with
  | some reason => exact .bind (.log (.of_error rfl (raised _ _ asked which (there.logged _))))
  | none => exact .of_error rfl (raised _ _ asked which there)

end Ends

end Service.Traced

end PaidAccess
