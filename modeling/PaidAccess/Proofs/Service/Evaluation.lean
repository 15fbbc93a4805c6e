import PaidAccess.Provider.Client
import PaidAccess.Delivery
/-!
Evaluating actions without looking at what they leave in the journal. A service stands at a store in
certain surroundings when its store is in memory, no failure is planned, and its clock and its provider's
answers are those of the surroundings. `Evaluates` says what an action comes to there: an outcome and a
store, both decided by the surroundings and the store before, whatever was logged, sent or connected.
-/

namespace PaidAccess

/-- What the service cannot change: the time, and what the provider answers when it is asked for a
subscription or a price. -/
structure Surroundings where
  now : DateTime
  subscriptions : Value → Outcome Value
  prices : Value → Outcome Value

def Surroundings.at (around : Surroundings) (time : DateTime) : Surroundings := { around with now := time }

/-- A service with this store in memory in these surroundings, for which no failure is planned. -/
structure Service.At (service : Service) (around : Surroundings) (store : MemoryStore) : Prop where
  memory : service.store = .memory store
  clock : service.now = around.now
  calm : ∀ point, service.faults point = []
  takesSubscription : ∀ id, service.provider.takes (.retrieveSubscription id) = true
  takesPrice : ∀ id, service.provider.takes (.retrievePrice id) = true
  subscriptions : ∀ served id,
    service.provider.answer served (.retrieveSubscription id) = around.subscriptions id
  prices : ∀ served id, service.provider.answer served (.retrievePrice id) = around.prices id

def Service.meeting (service : Service) (around : Surroundings) : Service :=
  { service with
    now := around.now
    provider := { service.provider with
      answer := fun served request =>
        match request with
        | .retrieveSubscription id => around.subscriptions id
        | .retrievePrice id => around.prices id
        | other => service.provider.answer served other } }

namespace Service.At

variable {service : Service} {around : Surroundings} {store : MemoryStore}

theorem logged (placed : service.At around store) (entry : LogEntry) : (service.logged entry).At around store :=
  ⟨placed.memory, placed.clock, placed.calm, placed.takesSubscription, placed.takesPrice,
    placed.subscriptions, placed.prices⟩

theorem requested (placed : service.At around store) (request : ProviderRequest) :
    (service.requested request).At around store :=
  ⟨placed.memory, placed.clock, placed.calm, placed.takesSubscription, placed.takesPrice,
    placed.subscriptions, placed.prices⟩

theorem delivered (placed : service.At around store) (delivery : Delivery) :
    (service.delivered delivery).At around store :=
  ⟨placed.memory, placed.clock, placed.calm, placed.takesSubscription, placed.takesPrice,
    placed.subscriptions, placed.prices⟩

theorem withRegistry (placed : service.At around store) (registry : Registry) :
    { service with registry := registry }.At around store :=
  ⟨placed.memory, placed.clock, placed.calm, placed.takesSubscription, placed.takesPrice,
    placed.subscriptions, placed.prices⟩

theorem withLinks (placed : service.At around store) (links : Links) : { service with links := links }.At around store :=
  ⟨placed.memory, placed.clock, placed.calm, placed.takesSubscription, placed.takesPrice,
    placed.subscriptions, placed.prices⟩

theorem withStore (placed : service.At around store) (after : MemoryStore) :
    { service with store := .memory after }.At around after :=
  ⟨rfl, placed.clock, placed.calm, placed.takesSubscription, placed.takesPrice,
    placed.subscriptions, placed.prices⟩

theorem wait (placed : service.At around store) (time : DateTime) :
    { service with now := time }.At (around.at time) store :=
  ⟨placed.memory, rfl, placed.calm, placed.takesSubscription, placed.takesPrice,
    placed.subscriptions, placed.prices⟩

theorem meeting (placed : service.At around store) (other : Surroundings) : (service.meeting other).At other store :=
  ⟨placed.memory, rfl, placed.calm, placed.takesSubscription, placed.takesPrice, fun _ _ => rfl, fun _ _ => rfl⟩

theorem serve (placed : service.At around store) (request : ProviderRequest) :
    { service with provider := (service.provider.serve request).2 }.At around store := by
  unfold Provider.serve
  split <;> exact ⟨placed.memory, placed.clock, placed.calm, placed.takesSubscription, placed.takesPrice,
    placed.subscriptions, placed.prices⟩

theorem remark (placed : service.At around store) (entries : List LogEntry) :
    (entries.foldl Service.logged service).At around store := by
  induction entries generalizing service with
  | nil => exact placed
  | cons entry rest ih => exact ih (placed.logged entry)

theorem nextFault (placed : service.At around store) (point : FaultPoint) :
    service.nextFault point = (none, service) := by
  simp [Service.nextFault, placed.calm point]

end Service.At

namespace Action

variable {α β : Type}

theorem run_bind (action : Action α) (next : α → Action β) (service : Service) :
    (action >>= next).run service = match action.run service with
      | (.ok value, after) => (next value).run after
      | (.error failure, after) => (.error failure, after) := by
  change (ExceptT.bind action next).run service = _
  simp only [ExceptT.bind, run, ExceptT.run, ExceptT.mk, StateT.run, bind, StateT.bind]
  rcases action service with ⟨outcome, after⟩
  cases outcome <;> rfl

theorem run_of (step : Service → Outcome α × Service) (service : Service) : (of step).run service = step service :=
  rfl

theorem run_recover (action : Action α) (handler : Failure → Action α) (service : Service) :
    (recover action handler).run service = match action.run service with
      | (.ok value, after) => (.ok value, after)
      | (.error failure, after) => (handler failure).run after := rfl

theorem run_discard (action : Action α) (service : Service) :
    ((discard action).run service).2 = (action.run service).2 := by
  have discards : discard action = action >>= fun _ => Pure.pure () := rfl
  rw [discards, run_bind]
  rcases action.run service with ⟨failure | value, after⟩ <;> rfl

end Action

/-- An action to which an edit of the service makes no difference, and that leaves alone what was edited. -/
def Blind {α : Type} (edit : Service → Service) (action : Action α) : Prop :=
  ∀ service : Service, action.run (edit service) = ((action.run service).1, edit (action.run service).2)

namespace Blind

open PaidAccess.Action

variable {α β : Type} {edit : Service → Service} {action : Action α}

theorem bind {next : α → Action β} (first : Blind edit action) (rest : ∀ value, Blind edit (next value)) :
    Blind edit (action >>= next) := by
  intro service
  rw [run_bind, run_bind, first service]
  rcases action.run service with ⟨failure | value, between⟩
  · rfl
  · exact rest value between

theorem recover {handler : Failure → Action α} (first : Blind edit action)
    (rest : ∀ failure, Blind edit (handler failure)) : Blind edit (Action.recover action handler) := by
  intro service
  rw [run_recover, run_recover, first service]
  rcases action.run service with ⟨failure | value, between⟩
  · exact rest failure between
  · rfl

theorem pass (edit : Service → Service) (apart : ∀ service : Service, (edit service).faults = service.faults)
    (through : ∀ (service : Service) (faults : FaultPoint → List (Option Failure)),
      edit { service with faults := faults } = { edit service with faults := faults }) (point : FaultPoint) :
    Blind edit (Action.pass point) := by
  intro service
  have fault : (edit service).nextFault point = ((service.nextFault point).1, edit (service.nextFault point).2) := by
    unfold Service.nextFault
    rw [apart]
    cases service.faults point with
    | nil => rfl
    | cons planned rest => exact Prod.ext rfl (through service _).symm
  unfold Action.pass
  rw [run_of, run_of, fault]
  rcases service.nextFault point with ⟨_ | failure, after⟩ <;> rfl

end Blind

def MemoryStore.proceed {α β : Type} (store : MemoryStore) (outcome : Outcome α)
    (next : α → Outcome β × MemoryStore) : Outcome β × MemoryStore :=
  match outcome with
  | .ok value => next value
  | .error failure => (.error failure, store)

namespace MemoryStore

variable {α β γ : Type} (store : MemoryStore)

@[simp] theorem proceed_ok (value : α) (next : α → Outcome β × MemoryStore) :
    store.proceed (.ok value) next = next value := rfl

@[simp] theorem proceed_error (failure : Failure) (next : α → Outcome β × MemoryStore) :
    store.proceed (.error failure) next = (.error failure, store) := rfl

theorem proceed_bind (outcome : Outcome α) (rest : α → Outcome β) (next : β → Outcome γ × MemoryStore) :
    store.proceed (outcome >>= rest) next = store.proceed outcome fun value => store.proceed (rest value) next := by
  cases outcome <;> rfl

end MemoryStore

/-- What an action comes to at a store: an outcome, and the store after it. -/
def Evaluates {α : Type} (around : Surroundings) (store : MemoryStore) (action : Action α)
    (result : Outcome α × MemoryStore) : Prop :=
  ∀ service : Service, service.At around store →
    ∃ after, action.run service = (result.1, after) ∧ after.At around result.2

namespace Evaluates

open PaidAccess.Action

variable {α β : Type} {around : Surroundings} {store middle : MemoryStore}

theorem run {action : Action α} {result : Outcome α × MemoryStore} (evaluates : Evaluates around store action result)
    {service : Service} (placed : service.At around store) :
    (action.run service).1 = result.1 ∧ (action.run service).2.At around result.2 := by
  obtain ⟨after, ran, there⟩ := evaluates service placed
  rw [ran]
  exact ⟨rfl, there⟩

theorem pure (value : α) : Evaluates around store (pure value : Action α) (.ok value, store) :=
  fun service placed => ⟨service, rfl, placed⟩

theorem lift (outcome : Outcome α) : Evaluates around store (Action.lift outcome) (outcome, store) :=
  fun service placed => ⟨service, rfl, placed⟩

theorem fail (failure : Failure) : Evaluates around store (Action.fail failure : Action α) (.error failure, store) :=
  lift _

theorem refuse (error : BillingError) :
    Evaluates around store (Action.refuse error : Action α) (.error (.billing error), store) :=
  lift _

theorem now : Evaluates around store Action.now (.ok around.now, store) :=
  fun service placed => ⟨service, by rw [← placed.clock]; rfl, placed⟩

theorem log (entry : LogEntry) : Evaluates around store (Action.log entry) (.ok (), store) :=
  fun service placed => ⟨service.logged entry, rfl, placed.logged entry⟩

theorem bind {action : Action α} {next : α → Action β} {value : α} {result : Outcome β × MemoryStore}
    (first : Evaluates around store action (.ok value, middle))
    (second : Evaluates around middle (next value) result) :
    Evaluates around store (action >>= next) result := by
  intro service placed
  obtain ⟨between, ran, there⟩ := first service placed
  obtain ⟨after, ranOn, arrived⟩ := second between there
  exact ⟨after, by rw [run_bind, ran]; exact ranOn, arrived⟩

theorem bind_error {action : Action α} {next : α → Action β} {failure : Failure}
    (first : Evaluates around store action (.error failure, middle)) :
    Evaluates around store (action >>= next) (.error failure, middle) := by
  intro service placed
  obtain ⟨after, ran, arrived⟩ := first service placed
  exact ⟨after, by rw [run_bind, ran], arrived⟩

theorem follow {action : Action α} {next : α → Action β} {result : Outcome α × MemoryStore}
    {rest : α → Outcome β × MemoryStore} (first : Evaluates around store action result)
    (second : ∀ value, Evaluates around result.2 (next value) (rest value)) :
    Evaluates around store (action >>= next) (result.2.proceed result.1 rest) := by
  obtain ⟨outcome, after⟩ := result
  cases outcome with
  | ok value => exact bind first (second value)
  | error failure => exact bind_error first

theorem proceed {action : Action α} {next : α → Action β} {outcome : Outcome α}
    {rest : α → Outcome β × MemoryStore} (first : Evaluates around store action (outcome, store))
    (second : ∀ value, Evaluates around store (next value) (rest value)) :
    Evaluates around store (action >>= next) (store.proceed outcome rest) :=
  follow first second

theorem bind_outcome {action : Action α} {next : α → Action β} {outcome : Outcome α} {rest : α → Outcome β}
    (first : Evaluates around store action (outcome, store))
    (second : ∀ value, Evaluates around store (next value) (rest value, store)) :
    Evaluates around store (action >>= next) (outcome >>= rest, store) := by
  cases outcome with
  | ok value => exact bind first (second value)
  | error failure => exact bind_error first

theorem recover {action : Action α} {handler : Failure → Action α} {value : α}
    (first : Evaluates around store action (.ok value, middle)) :
    Evaluates around store (Action.recover action handler) (.ok value, middle) := by
  intro service placed
  obtain ⟨after, ran, arrived⟩ := first service placed
  exact ⟨after, by rw [run_recover, ran], arrived⟩

theorem recover_error {action : Action α} {handler : Failure → Action α} {failure : Failure}
    {result : Outcome α × MemoryStore}
    (first : Evaluates around store action (.error failure, middle))
    (second : Evaluates around middle (handler failure) result) :
    Evaluates around store (Action.recover action handler) result := by
  intro service placed
  obtain ⟨between, ran, there⟩ := first service placed
  obtain ⟨after, ranOn, arrived⟩ := second between there
  exact ⟨after, by rw [run_recover, ran]; exact ranOn, arrived⟩

theorem read {view : Service → α} {value : α}
    (sees : ∀ service : Service, service.At around store → view service = value) :
    Evaluates around store (Action.read view) (.ok value, store) :=
  fun service placed => ⟨service, by rw [← sees service placed]; rfl, placed⟩

theorem update {change : Service → Service}
    (stays : ∀ service : Service, service.At around store → (change service).At around store) :
    Evaluates around store (Action.update change) (.ok (), store) :=
  fun service placed => ⟨change service, rfl, stays service placed⟩

theorem pass (point : FaultPoint) : Evaluates around store (Action.pass point) (.ok (), store) := by
  intro service placed
  refine ⟨service, ?_, placed⟩
  rw [Action.pass, run_of, placed.nextFault point]

theorem perform (op : StoreOp) : Evaluates around store (Action.perform op) (store.apply around.now op) := by
  apply bind (pass _)
  intro service placed
  refine ⟨_, ?_, (placed.remark (store.remarks op)).withStore (store.apply around.now op).2⟩
  rw [run_of]
  simp only [placed.memory, placed.clock]

theorem ask {request : ProviderRequest} {answer : Outcome Value}
    (takes : ∀ service : Service, service.At around store → service.provider.takes request = true)
    (answers : ∀ service : Service, service.At around store →
      ∀ served, service.provider.answer served request = answer) :
    Evaluates around store (Action.ask request) (answer, store) := by
  apply bind (read takes)
  apply bind (update fun service placed => placed.requested request)
  apply bind (pass _)
  intro service placed
  refine ⟨_, ?_, placed.serve request⟩
  rw [run_of]
  simp only [Provider.serve, answers service placed]
  cases answer <;> rfl

end Evaluates

def Failure.passedOn (error : String → BillingError) (failure : Failure) : Failure :=
  match failure.fromProvider? with
  | some reason => .billing (error reason)
  | none => failure

def Surroundings.normal {α : Type} (error : String → BillingError) (read : Value → Outcome α) :
    Outcome Value → Outcome α
  | .ok answer => read answer
  | .error failure => .error (failure.passedOn error)

def Surroundings.subscription (around : Surroundings) (id : Value) : Outcome ProviderSubscription :=
  normal .subscriptionNotRetrieved Payload.subscription (around.subscriptions id)

def Surroundings.price (around : Surroundings) (id : Value) : Outcome ProviderPrice :=
  normal .priceNotRetrieved Payload.price (around.prices id)

namespace Evaluates

variable {α : Type} {around : Surroundings} {store : MemoryStore}

theorem askOrRefuse {request : ProviderRequest} {answer : Outcome Value} {event : String} {fields : Fields}
    {error : String → BillingError} {read : Value → Outcome α}
    (asked : Evaluates around store (Action.ask request) (answer, store)) :
    Evaluates around store
      (ProviderClient.askOrRefuse request event fields error >>= fun answer => Action.lift (read answer))
      (Surroundings.normal error read answer, store) := by
  unfold ProviderClient.askOrRefuse
  cases answer with
  | ok answer => exact bind (recover asked) (lift _)
  | error failure =>
    apply bind_error
    apply recover_error asked
    unfold Failure.passedOn
    cases failure.fromProvider? with
    | some reason => exact bind (log _) (refuse _)
    | none => exact fail _

theorem retrieveSubscription (id : Value) :
    Evaluates around store (ProviderClient.retrieveSubscription id) (around.subscription id, store) :=
  askOrRefuse (ask (fun _ placed => placed.takesSubscription id)
    fun _ placed served => placed.subscriptions served id)

theorem retrievePrice (id : Value) :
    Evaluates around store (ProviderClient.retrievePrice id) (around.price id, store) :=
  askOrRefuse (ask (fun _ placed => placed.takesPrice id) fun _ placed served => placed.prices served id)

end Evaluates

def Idles {α : Type} (around : Surroundings) (store : MemoryStore) (action : Action α) : Prop :=
  ∀ service : Service, service.At around store → (action.run service).2.At around store

namespace Idles

open PaidAccess.Action

variable {α β : Type} {around : Surroundings} {store : MemoryStore}

theorem of_evaluates {action : Action α} {outcome : Outcome α}
    (evaluates : Evaluates around store action (outcome, store)) : Idles around store action :=
  fun _ placed => (evaluates.run placed).2

theorem bind {action : Action α} {next : α → Action β} (first : Idles around store action)
    (second : ∀ value, Idles around store (next value)) : Idles around store (action >>= next) := by
  intro service placed
  have there := first service placed
  rw [run_bind]
  rcases ran : action.run service with ⟨outcome, between⟩
  rw [ran] at there
  cases outcome with
  | ok value => exact second value between there
  | error failure => exact there

theorem recover {action : Action α} {handler : Failure → Action α} (first : Idles around store action)
    (second : ∀ failure, Idles around store (handler failure)) :
    Idles around store (Action.recover action handler) := by
  intro service placed
  have there := first service placed
  rw [run_recover]
  rcases ran : action.run service with ⟨outcome, between⟩
  rw [ran] at there
  cases outcome with
  | ok value => exact there
  | error failure => exact second failure between there

theorem unregister (userId : String) (connection : Connection) :
    Idles around store (Delivery.unregister userId connection) :=
  of_evaluates (.bind (.update fun _ placed => placed.withRegistry _) (.log _))

theorem attempt (userId : String) (notice : Notice) (connection : Connection) :
    Idles around store (Delivery.attempt userId notice connection) := by
  apply recover
  · refine bind ?_ fun _ => of_evaluates (.pure _)
    intro service placed
    rw [Delivery.sendTo, run_of]
    dsimp only
    split
    next => exact placed.withLinks _
    next => exact (placed.withLinks _).delivered _
  · intro failure
    exact bind (of_evaluates (.log _)) fun _ => bind (unregister userId connection) fun _ => of_evaluates (.pure _)

theorem sendToAll (userId : String) (notice : Notice) (connections : List Connection) :
    Idles around store (Delivery.sendToAll userId notice connections) := by
  induction connections with
  | nil => exact of_evaluates (.pure _)
  | cons connection rest ih =>
    exact bind (attempt userId notice connection) fun _ => bind ih fun _ => of_evaluates (.pure _)

theorem reading (view : Service → α) : Idles around store (Action.read view) :=
  fun _ placed => placed

theorem send (userId : String) (notice : Notice) : Idles around store (Delivery.send userId notice) := by
  refine bind (reading _) fun notifier => ?_
  cases notifier with
  | registry => exact bind (reading _) fun _ => sendToAll userId notice _
  | silent => exact of_evaluates (.pure _)
  | broken => exact of_evaluates (.fail _)

end Idles

theorem Evaluates.notify {around : Surroundings} {store : MemoryStore} (userId kind : String) (data : Fields) :
    Evaluates around store (Delivery.notify userId kind data) (.ok (), store) := by
  intro service placed
  have sent : Idles around store (do
      let _ ← Delivery.send userId ⟨kind, data⟩
      return ()) :=
    .bind (.send userId _) fun _ => .of_evaluates (.pure _)
  have there := sent service placed
  rw [Delivery.notify, Action.run_recover]
  rcases ran : Action.run _ service with ⟨outcome, between⟩
  rw [ran] at there
  cases outcome with
  | ok value => exact ⟨between, rfl, there⟩
  | error failure => exact Evaluates.log _ between there

end PaidAccess
