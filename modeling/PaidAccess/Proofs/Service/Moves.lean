import Mathlib.Data.List.Induction
import PaidAccess.Proofs.Reconciliation.Imprint
import PaidAccess.Proofs.Service.Session
/-!
Runs of a service. A run is a list of moves: calls of the service, simulated activations that are released, and changes
of what surrounds it. Each move reconciles one event, or settles the parties of a checkout, or grants nobody anything.
-/

namespace PaidAccess

open PaidAccess.Action Reconciliation

/-- Something that happens to a service. -/
inductive Move where
  | call (made : BillingCall)
  | simulation (released : Simulation)
  /-- Time goes by, the provider's answers become others, or calls are planned to fail. -/
  | meanwhile (now : DateTime) (provider : Provider) (faults : FaultPoint → List (Option Failure))

namespace Move

def action : Move → Action Unit
  | .call made => made.action
  | .simulation released => Checkout.simulate released
  | .meanwhile now provider faults =>
      update fun service => { service with now := now, provider := provider, faults := faults }

def eventOf : Outcome (Option AccessChange) → Option ReconcileEvent
  | .ok (some (.event event)) => some event
  | _ => none

/-- The event that a move reconciles at a point in time, if it reconciles one. -/
def event? (now : DateTime) : Move → Option ReconcileEvent
  | .call (.event event) => some event
  | .call (.renewal invoice) => eventOf (Webhook.readingOf (some .invoicePaid) invoice)
  | .call (.announcement event) => eventOf (Webhook.reading event)
  | .simulation released => (Checkout.simulatedEvent released now).toOption
  | _ => none

end Move

namespace Service

def after (service : Service) (move : Move) : Service := (move.action.run service).2

def follow (service : Service) (moves : List Move) : Service := moves.foldl after service

theorem follow_concat (service : Service) (earlier : List Move) (move : Move) :
    service.follow (earlier ++ [move]) = (service.follow earlier).after move :=
  List.foldl_append

end Service

theorem Move.forall_prefix_cons {holds : List Move → Move → Prop} {first : Move} {rest : List Move} :
    (∀ earlier move, earlier ++ [move] <+: first :: rest → holds earlier move) ↔
      holds [] first ∧ ∀ earlier move, earlier ++ [move] <+: rest → holds (first :: earlier) move := by
  constructor
  · intro all
    refine ⟨all [] first (List.prefix_append [first] rest), fun earlier move taken => ?_⟩
    exact all (first :: earlier) move (List.cons_prefix_cons.mpr ⟨rfl, taken⟩)
  · rintro ⟨once, later⟩ earlier move taken
    cases earlier with
    | nil =>
      obtain ⟨rfl, -⟩ := List.cons_prefix_cons.mp taken
      exact once
    | cons head earlier =>
      obtain ⟨rfl, further⟩ := List.cons_prefix_cons.mp taken
      exact later earlier move further

namespace MemoryStore.GrantsNothing

variable {store : MemoryStore}

theorem openCounter (store : MemoryStore) (userId : Value) (feature : FeatureKey) (start finish : Option DateTime) :
    store.GrantsNothing (store.openCounter userId feature start finish).2 := by
  refine ⟨fun keyed => keyed.openCounter userId feature start finish, ?_, .of_eq ?_⟩
  all_goals
    unfold MemoryStore.openCounter
    split
    next => rfl
    next =>
      split
      next => rfl
      next => split <;> rfl

theorem spend (store : MemoryStore) (now : DateTime) (userId : Value) (feature : FeatureKey) (start : Option DateTime)
    (amount limit : Value) : store.GrantsNothing (store.apply now (.spend userId feature start amount limit)).2 := by
  refine ⟨fun keyed => keyed.apply now _, ?_, .of_eq ?_⟩
  all_goals
    unfold MemoryStore.apply MemoryStore.spend
    dsimp only
    split
    next =>
      split
      next => rfl
      next =>
        split
        next => split <;> rfl
        next => rfl
    next => rfl
    next => rfl

end MemoryStore.GrantsNothing

namespace Credits

variable {service : Service} {store : MemoryStore}

theorem unexpired_scripted (userId : Value) (now : DateTime) : Scripted false (unexpired userId now) := by
  refine .bind (.perform _ (.inr rfl)) fun found => ?_
  cases found with
  | none => exact .refuse _
  | some entitlement =>
    refine .bind (.lift _) fun expired => ?_
    cases expired with
    | true => exact .bind (.refuse _) fun _ => .pure _
    | false => exact .pure _

theorem quota_scripted (planId : String) : Scripted false (quota planId) := by
  refine .bind (.perform _ (.inr rfl)) fun plan => ?_
  cases plan.bind (·.dailyCredits) with
  | none => exact .refuse _
  | some credits => exact .pure _

theorem consume_grantsNothing (userId : Value) (amount : Amount) (memory : service.store = .memory store) :
    ∃ after, ((consume userId amount).run service).2.store = .memory after ∧ store.GrantsNothing after := by
  have beside := Service.Beside.refl memory
  have unchanged : ∀ {after : Service}, after.Beside service store →
      ∃ left, after.store = .memory left ∧ store.GrantsNothing left := fun there => ⟨store, there.memory, .refl store⟩
  have counted : ∀ (entitlement : Entitlement) (now : DateTime) {between : Service}, between.Beside service store →
      (todaysCounter entitlement now).Ends between
        (fun _ after => ∃ left, after.Beside service left ∧ store.GrantsNothing left)
        (fun _ after => ∃ left, after.store = .memory left ∧ store.GrantsNothing left) := by
    intro entitlement now between there
    refine .bind (.inspect there rfl (fun found _ _ here _ => ?_) fun _ _ here _ => unchanged here)
    cases found with
    | some counter => exact .pure ⟨store, here, .refl store⟩
    | none =>
      refine .bind (.lift (fun (start, finish) _ => ?_) fun _ _ => unchanged here)
      exact .perform here (fun _ _ left _ _ => unchanged left)
        (fun _ _ _ left _ => ⟨_, left, .openCounter store _ _ _ _⟩)
        fun _ _ _ left _ => ⟨_, left.memory, .openCounter store _ _ _ _⟩
  have ends : (consume userId amount).Ends service
      (fun _ after => ∃ left, after.store = .memory left ∧ store.GrantsNothing left)
      (fun _ after => ∃ left, after.store = .memory left ∧ store.GrantsNothing left) := by
    unfold consume
    dsimp only
    split
    next => exact .bind (.of_error rfl (unchanged beside))
    next =>
      refine .bind (.now (.bind (.of_quiet (unexpired_scripted userId _).quiet beside
        (fun entitlement _ _ there _ => ?_) fun _ _ there => unchanged there)))
      refine .bind (.of_quiet (quota_scripted entitlement.planId).quiet there (fun limit _ _ here _ => ?_)
        fun _ _ here => unchanged here)
      refine .bind ((counted entitlement _ here).returning fun counter _ ⟨opened, stays, granted⟩ => ?_)
      have spent := granted.trans (.spend opened service.now userId .aiCredits (some counter.start) amount.toValue
        (.int limit))
      refine .bind (.perform stays (fun _ _ left _ _ => ⟨opened, left.memory, granted⟩) (fun updated _ _ left _ => ?_)
        fun _ _ _ left _ => ⟨_, left.memory, spent⟩)
      cases updated with
      | none => exact .bind (.log (.of_error rfl ⟨_, left.memory, spent⟩))
      | some updated =>
        exact .bind (.log (.lift (fun _ _ => ⟨_, left.memory, spent⟩) fun _ _ => ⟨_, left.memory, spent⟩))
  exact ends.left

end Credits

namespace Webhook

variable {service : Service} {store : MemoryStore}

def storeAfter (service : Service) : Outcome (Option AccessChange) → Store
  | .ok (some change) => (change.action.run service).2.store
  | _ => service.store

theorem handled_storeAfter (service : Service) (asked : Outcome (Option AccessChange)) :
    Handled service asked (fun _ after => after.store = storeAfter service asked)
      fun _ after => after.store = storeAfter service asked := by
  refine ⟨?_, ?_, ?_⟩
  · rintro failure rfl
    rfl
  · rintro rfl entries
    exact service.store_foldl_logged entries
  · rintro change rfl
    refine ⟨fun value after ran entries => ?_, fun failure after ran => ?_⟩
    · dsimp only
      rw [Service.store_foldl_logged, storeAfter, ran]
    · rw [storeAfter, ran]

theorem store_handle (service : Service) (event : Value) :
    ((handle event).run service).2.store = storeAfter service (reading event) :=
  (handle_ends (handled_storeAfter service (reading event))).left

theorem store_reconcileRenewal (service : Service) (invoice : Value) :
    ((reconcileRenewal invoice).run service).2.store =
      storeAfter service (readingOf (some .invoicePaid) invoice) := by
  have announced : ((reconcileRenewal invoice).run service).2.store = ((invoicePaid invoice []).run service).2.store := by
    unfold invoicePaid
    rw [run_bind]
    rcases (reconcileRenewal invoice).run service with ⟨failure | result, after⟩
    · rfl
    · cases result <;> rfl
  have paid : (invoicePaid invoice []).Ends service _ _ :=
    invoicePaid_ends (handled_storeAfter service (readingOf (some .invoicePaid) invoice))
  rw [announced]
  rcases ran : (invoicePaid invoice []).run service with ⟨failure | value, after⟩
  · exact paid.raised failure after ran
  · exact paid.returned value after ran []

theorem exists_storeAfter (memory : service.store = .memory store) (asked : Outcome (Option AccessChange)) :
    ∃ after, storeAfter service asked = .memory after ∧ ((∃ event, Move.eventOf asked = some event ∧
      MemoryStore.Affected service event store after) ∨ (Move.eventOf asked = none ∧ store.GrantsNothing after)) := by
  rcases asked with failure | _ | change
  · exact ⟨store, memory, .inr ⟨rfl, .refl store⟩⟩
  · exact ⟨store, memory, .inr ⟨rfl, .refl store⟩⟩
  · cases change with
    | event event =>
      obtain ⟨after, left, affected⟩ := reconcile_affects event memory
      exact ⟨after, (congrArg Service.store (run_discard _ _)).trans left, .inl ⟨event, rfl, affected⟩⟩
    | cancellation subscription =>
      obtain ⟨after, left, granted⟩ := reconcileCancellation_grantsNothing subscription memory
      exact ⟨after, (congrArg Service.store (run_discard _ _)).trans left, .inr ⟨rfl, granted⟩⟩

end Webhook

namespace Checkout

theorem core_simulate (released : Simulation) (service : Service) :
    ((simulate released).run service).2.core = match simulatedEvent released service.now with
      | .ok event => ((reconcile event).run service).2.core
      | .error _ => service.core := by
  have looked : now.run service = (.ok service.now, service) := rfl
  unfold simulate
  dsimp only
  rw [run_recover, run_bind, looked]
  dsimp only
  cases simulatedEvent released service.now with
  | error failure => rfl
  | ok event =>
    have lifted : (lift (Except.ok event)).run service = (.ok event, service) := rfl
    rw [run_bind, lifted]
    dsimp only
    rw [run_bind]
    rcases (reconcile event).run service with ⟨failure | result, after⟩ <;> rfl

end Checkout

namespace Checkout

variable {service : Service} {store : MemoryStore}

/-- The parties of a request are settled, or they are not and nothing has changed. -/
inductive Settled (service : Service) (store : MemoryStore) (userId email : Value) (after : MemoryStore) : Prop where
  | failed {failure : Failure} (refused : ((parties userId email).run service).1 = .error failure) (same : after = store)
  | agreed {user : Option User} {customerId : Value}
      (found : ((parties userId email).run service).1 = .ok (user, customerId))
      (known : store.requester userId email = .ok user) (paying : store.Paying user customerId after)

theorem parties_settled (userId email : Value) (memory : service.store = .memory store) :
    ∃ after, ((parties userId email).run service).2.store = .memory after ∧
      Settled service store userId email after := by
  have ends := parties_ends userId email (.refl memory)
  rcases ran : (parties userId email).run service with ⟨failure | ⟨user, customerId⟩, between⟩
  · obtain ⟨_, stopped, -⟩ := ends.raised failure between ran
    exact ⟨store, stopped.beside.memory, .failed (congrArg Prod.fst ran) rfl⟩
  · obtain ⟨known, left, _, paying, there, -⟩ := ends.returned _ between ran
    exact ⟨left, there.beside.memory, .agreed (congrArg Prod.fst ran) known paying⟩

end Checkout

/-- What comes of a move, at most. -/
inductive Move.Effect (service : Service) (store : MemoryStore) (move : Move) (after : MemoryStore) : Prop where
  | event (event : ReconcileEvent) (about : move.event? service.now = some event)
      (affected : MemoryStore.Affected service event store after)
  | checkout (priceId email userId : Value) (requested : move = .call (.checkout priceId email userId))
      (settled : Checkout.Settled service store userId email after)
  | other (about : move.event? service.now = none)
      (unrequested : ∀ priceId email userId, move ≠ .call (.checkout priceId email userId))
      (granted : store.GrantsNothing after)

theorem Move.effect {service : Service} {store : MemoryStore} (memory : service.store = .memory store) (move : Move) :
    ∃ after, (service.after move).store = .memory after ∧ move.Effect service store after := by
  have asking : ∀ (asked : Outcome (Option AccessChange)), move.event? service.now = eventOf asked →
      (∀ priceId email userId, move ≠ .call (.checkout priceId email userId)) →
      (service.after move).store = Webhook.storeAfter service asked →
      ∃ after, (service.after move).store = .memory after ∧ move.Effect service store after := by
    intro asked about unrequested left
    obtain ⟨after, stored, ⟨event, read, affected⟩ | ⟨unread, granted⟩⟩ := Webhook.exists_storeAfter memory asked
    · exact ⟨after, left.trans stored, .event event (about.trans read) affected⟩
    · exact ⟨after, left.trans stored, .other (about.trans unread) unrequested granted⟩
  have discarded : ∀ {α : Type} {action : Action α}, (service.after move) = ((discard action).run service).2 →
      (service.after move).store = (action.run service).2.store :=
    fun same => (congrArg Service.store same).trans (congrArg Service.store (run_discard _ _))
  cases move with
  | call made =>
    cases made with
    | event event => exact asking (.ok (some (.event event))) rfl nofun rfl
    | renewal invoice => exact asking _ rfl nofun ((discarded rfl).trans (Webhook.store_reconcileRenewal service invoice))
    | cancellation subscription => exact asking (.ok (some (.cancellation subscription))) rfl nofun rfl
    | announcement event => exact asking _ rfl nofun ((discarded rfl).trans (Webhook.store_handle service event))
    | checkout priceId email userId =>
      obtain ⟨after, left, settled⟩ := Checkout.parties_settled userId email memory
      exact ⟨after, ((discarded rfl).trans (Checkout.store_start priceId email userId memory)).trans left,
        .checkout priceId email userId rfl settled⟩
    | spend userId amount =>
      obtain ⟨after, left, granted⟩ := Credits.consume_grantsNothing userId amount memory
      exact ⟨after, (discarded rfl).trans left, .other rfl nofun granted⟩
  | simulation released =>
    have left : (service.after (.simulation released)).core = _ := Checkout.core_simulate released service
    cases simulated : Checkout.simulatedEvent released service.now with
    | error failure =>
      rw [simulated] at left
      refine ⟨store, (congrArg Core.store left).trans memory, .other ?_ nofun (.refl store)⟩
      exact congrArg Except.toOption simulated
    | ok event =>
      rw [simulated] at left
      obtain ⟨after, stored, affected⟩ := reconcile_affects event memory
      exact ⟨after, (congrArg Core.store left).trans stored,
        .event event (congrArg Except.toOption simulated) affected⟩
  | meanwhile now provider faults => exact ⟨store, memory, .other rfl nofun (.refl store)⟩

theorem Move.Effect.keyed {service : Service} {store after : MemoryStore} {move : Move}
    (effect : move.Effect service store after) (keyed : store.Keyed) : after.Keyed := by
  cases effect with
  | event event about affected => exact affected.keyed keyed
  | checkout priceId email userId requested settled =>
    cases settled with
    | failed refused same => exact same ▸ keyed
    | agreed found known paying =>
      cases paying with
      | adopted user lacks customer => exact keyed.assignCustomer user.id (.text customer)
      | _ => exact keyed
  | other about unrequested granted => exact granted.keyed keyed

theorem Service.exists_follow {service : Service} {store : MemoryStore} (memory : service.store = .memory store)
    (keyed : store.Keyed) (moves : List Move) : ∃ left, (service.follow moves).store = .memory left ∧ left.Keyed := by
  induction moves using List.reverseRecOn with
  | nil => exact ⟨store, memory, keyed⟩
  | append_singleton earlier move ih =>
    obtain ⟨between, stored, keyedBetween⟩ := ih
    obtain ⟨left, storedToo, effect⟩ := Move.effect stored move
    exact ⟨left, (congrArg Service.store (follow_concat service earlier move)).trans storedToo,
      effect.keyed keyedBetween⟩

/-- What each move keeps exactly if it is harmless, a run keeps all the way exactly if all its moves are harmless. -/
theorem Service.follow_keeps_iff {good : MemoryStore → Prop} {harmless : Service → MemoryStore → Move → Prop}
    (step : ∀ {service : Service} {store after : MemoryStore} {move : Move}, store.Keyed → good store →
      move.Effect service store after → (good after ↔ harmless service store move))
    {service : Service} {store : MemoryStore} (memory : service.store = .memory store) (keyed : store.Keyed)
    (starts : good store) (moves : List Move) :
    (∀ earlier, earlier <+: moves → ∃ left, (service.follow earlier).store = .memory left ∧ good left) ↔
      ∀ earlier move left, earlier ++ [move] <+: moves → (service.follow earlier).store = .memory left →
        harmless (service.follow earlier) left move := by
  have moved : ∀ {earlier : List Move} {left : MemoryStore} (move : Move),
      (service.follow earlier).store = .memory left → ∃ after, (service.follow (earlier ++ [move])).store = .memory after ∧
        left.Keyed ∧ move.Effect (service.follow earlier) left after := by
    intro earlier left move stored
    obtain ⟨same, storedToo, keyedLeft⟩ := exists_follow memory keyed earlier
    cases stored.symm.trans storedToo
    obtain ⟨after, arrived, effect⟩ := Move.effect stored move
    exact ⟨after, (congrArg Service.store (follow_concat service earlier move)).trans arrived, keyedLeft, effect⟩
  constructor
  · intro always earlier move left taken stored
    obtain ⟨before, storedToo, goodBefore⟩ := always earlier ((List.prefix_append earlier [move]).trans taken)
    cases stored.symm.trans storedToo
    obtain ⟨after, arrived, keyedLeft, effect⟩ := moved move stored
    obtain ⟨later, arrivedToo, goodLater⟩ := always (earlier ++ [move]) taken
    cases arrived.symm.trans arrivedToo
    exact (step keyedLeft goodBefore effect).mp goodLater
  · intro harmless earlier taken
    -- from the end, as the last move is made at the service that the earlier ones leave
    induction earlier using List.reverseRecOn with
    | nil => exact ⟨store, memory, starts⟩
    | append_singleton earlier move ih =>
      obtain ⟨left, stored, goodLeft⟩ := ih ((List.prefix_append earlier [move]).trans taken)
      obtain ⟨after, arrived, keyedLeft, effect⟩ := moved move stored
      exact ⟨after, arrived, (step keyedLeft goodLeft effect).mpr (harmless earlier move left taken stored)⟩

namespace Checkout

variable {first second : Service} {store : MemoryStore}

theorem simulate_course (released : Simulation) (memory : first.store = .memory store)
    (same : second.core = first.core) :
    ∃ after, (simulate released).run second = (.ok (), after) ∧
      after.core = (first.after (.simulation released)).core := by
  have returns : ((simulate released).run second).1 = .ok () := by
    unfold simulate
    dsimp only
    rw [run_recover]
    split <;> rfl
  have time : second.now = first.now := congrArg Core.now same
  refine ⟨((simulate released).run second).2, Prod.ext returns rfl, ?_⟩
  change _ = ((simulate released).run first).2.core
  rw [core_simulate, core_simulate, time]
  cases simulatedEvent released first.now with
  | error failure => exact same
  | ok event =>
    obtain ⟨outcome, after, afterToo, -, ran, ranToo, cores, -⟩ := (Scripted.reconcile event).course memory same
    dsimp only
    rw [ran, ranToo]
    exact cores

theorem core_simulateAll (waiting : List Simulation) (memory : first.store = .memory store)
    (same : second.core = first.core) :
    ((simulateAll waiting).run second).2.core = (first.follow (waiting.map .simulation)).core := by
  induction waiting generalizing first second store with
  | nil => exact same
  | cons released rest ih =>
    have entered : (update fun service => { service with context := released.context }).run second =
        (.ok (), { second with context := released.context }) := rfl
    have sameEntered : { second with context := released.context }.core = first.core := same
    obtain ⟨after, ran, core⟩ := simulate_course released memory sameEntered
    obtain ⟨left, stored, -⟩ := Move.effect memory (.simulation released)
    unfold simulateAll
    rw [run_bind, entered]
    dsimp only
    rw [run_bind, ran]
    exact ih stored core

theorem store_runSimulations (memory : first.store = .memory store) :
    (runSimulations.run first).2.store = (first.follow (first.simulations.map .simulation)).store := by
  have emptied : { first with simulations := [] }.core = first.core := rfl
  have released := congrArg Core.store (core_simulateAll first.simulations memory emptied)
  have view : ∀ {α : Type} (view : Service → α), (read view).run first = (.ok (view first), first) := fun _ => rfl
  have empties : (update fun service => { service with simulations := [] }).run first =
      (.ok (), { first with simulations := [] }) := rfl
  unfold runSimulations
  refine Eq.trans ?_ released
  simp only [run_bind, view, empties]
  rcases (simulateAll first.simulations).run { first with simulations := [] } with ⟨failure | done, after⟩ <;> rfl

end Checkout

end PaidAccess
