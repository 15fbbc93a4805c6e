import PaidAccess.Proofs.Reconciliation.Interruption
import PaidAccess.Proofs.Reconciliation.DeliveryOrder
/-!
A delivery that failed is repaired by the next one. A failed delivery leaves the store as it was, or with the
customer recorded, or with the counters reset as well. From each of these stores the event is about the same user
and decides the same, because neither the plans nor the entitlements have changed; and a reset that is carried out
again enters the counters that are already there.
-/

namespace PaidAccess

open Reconciliation

namespace MemoryStore

variable {store : MemoryStore} {around : Surroundings} {event : ReconcileEvent} {user : User}
  {details : SubscriptionDetails} {decision : Decision}

theorem enter_enter_freshCounters {plan : Plan} {userId : String} {start finish now : DateTime}
    {counters : List UsageCounter} (usage : OrderedMap UsageKey UsageCounter)
    (fresh : plan.freshCounters (.text userId) (some start) (some finish) now = .ok counters) :
    (usage.enter UsageCounter.key counters).enter UsageCounter.key counters =
      usage.enter UsageCounter.key counters := by
  obtain ⟨close, rfl⟩ := Plan.zeroCounters_of_freshCounters fresh
  have distinct := plan.zeroCounters_distinct userId start finish close
  exact (OrderedMap.enter_eq_self_iff distinct).mpr fun counter member =>
    OrderedMap.get?_enter_of_mem usage distinct member

theorem restart_restart (store : MemoryStore) (now : DateTime) (user : User) (decision : Decision) :
    ((store.restart now user decision).2.restart now user decision).1 = (store.restart now user decision).1 ∧
      ∃ listed resets, ((store.restart now user decision).2.restart now user decision).2 =
        { (store.restart now user decision).2 with listedStarts := listed, resets := resets } := by
  unfold restart
  cases decision.usageReset with
  | false => exact ⟨rfl, _, _, rfl⟩
  | true =>
    simp only [↓reduceIte]
    cases fresh : decision.plan.freshCounters (.text user.id) (some decision.grant.start)
        (some decision.grant.finish) now with
    | error failure =>
      unfold resetUsage
      rw [fresh]
      exact ⟨rfl, _, _, rfl⟩
    | ok counters =>
      obtain ⟨listed, resets, first⟩ := store.resetUsage_of_fresh fresh
      rw [first]
      obtain ⟨listedToo, resetsToo, second⟩ := resetUsage_of_fresh
        { store with
          usage := store.usage.enter UsageCounter.key counters, listedStarts := listed, resets := resets } fresh
      rw [second]
      exact ⟨rfl, listedToo, resetsToo, by rw [enter_enter_freshCounters store.usage fresh]⟩

theorem carryOut_restart (store : MemoryStore) (now : DateTime) (event : ReconcileEvent) (user : User)
    (details : SubscriptionDetails) (decision : Decision) :
    ((store.restart now user decision).2.carryOut now event user details decision).1 =
        (store.carryOut now event user details decision).1 ∧
      SameAccess ((store.restart now user decision).2.carryOut now event user details decision).2
        (store.carryOut now event user details decision).2 := by
  obtain ⟨outcome, listed, resets, left⟩ := store.restart_restart now user decision
  unfold carryOut
  dsimp only
  rw [outcome, left]
  cases (store.restart now user decision).1 with
  | error failure => exact ⟨rfl, rfl, rfl, rfl⟩
  | ok counters =>
    simp only [proceed_ok]
    unfold enter
    cases payer event user with
    | error failure => exact ⟨rfl, rfl, rfl, rfl⟩
    | ok customerId => exact ⟨rfl, rfl, rfl, rfl⟩

theorem decide_restart (store : MemoryStore) (now : DateTime) (event : ReconcileEvent) (user other : User)
    (details : SubscriptionDetails) (decision : Decision) :
    (store.restart now other decision).2.decide around event user details =
      store.decide around event user details := by
  obtain ⟨usage, listed, resets, restarted⟩ := store.restart_eq now other decision
  rw [restarted]
  rfl

theorem reported_outcome {α : Type} (event : ReconcileEvent) {first second : Outcome α × MemoryStore}
    (same : first.1 = second.1) : (reported event first).1 = (reported event second).1 := by
  obtain ⟨outcome, before⟩ := first
  obtain ⟨outcomeToo, after⟩ := second
  obtain rfl : outcome = outcomeToo := same
  rcases outcome with failure | value
  · cases failure <;> rfl
  · rfl

theorem reconcile_adopt (keyed : store.Keyed) (complete : event.isComplete = true)
    (found : store.resolve event = .ok (some user)) :
    (store.adopt event user).reconcile around event = store.reconcile around event := by
  rw [reconcile_of_complete complete (resolve_adopt keyed found), reconcile_of_complete complete found]
  unfold deliver
  rw [adopt_adopted, event.adopted_adopted]

theorem reconcile_restart (keyed : store.Keyed) (complete : event.isComplete = true)
    (found : store.resolve event = .ok (some user)) (known : around.details event = .ok details)
    (entitled : StatusBucket.ofStatus details.status = .entitled)
    (decided : (store.adopt event user).decide around event (event.adopted user) details = .ok decision) :
    let left := ((store.adopt event user).restart around.now (event.adopted user) decision).2
    (left.reconcile around event).1 = (store.reconcile around event).1 ∧
      SameAccess (left.reconcile around event).2 (store.reconcile around event).2 := by
  intro left
  have foundLeft : left.resolve event = .ok (some (event.adopted user)) :=
    (resolve_of_users (restart_users _ _ _ _)).trans (resolve_adopt keyed found)
  have decidedLeft : (left.adopt event (event.adopted user)).decide around event (event.adopted (event.adopted user))
      details = .ok decision := by
    rw [adopt_adopted, event.adopted_adopted]
    exact (decide_restart _ _ _ _ _ _ _).trans decided
  obtain ⟨outcome, same⟩ :=
    (store.adopt event user).carryOut_restart around.now event (event.adopted user) details decision
  have there := deliver_of_decided known entitled decidedLeft
  rw [adopt_adopted, event.adopted_adopted] at there
  rw [reconcile_of_complete complete foundLeft, reconcile_of_complete complete found, there,
    deliver_of_decided known entitled decided, reported_store, reported_store]
  exact ⟨reported_outcome event outcome, same⟩

end MemoryStore

/-- What can be left leads to the same result, and to the same accounts, entitlements and counters. -/
theorem Stopped.reconcile {origin after : Service} {around : Surroundings} {event : ReconcileEvent}
    {store : MemoryStore} {failure : Failure} (stopped : Stopped origin around event store failure after)
    (placed : origin.calmed.At around store) (keyed : store.Keyed) :
    ∃ left : MemoryStore, after.calmed.At around left ∧
      (left.reconcile around event).1 = (store.reconcile around event).1 ∧
      (left.reconcile around event).2.SameAccess (store.reconcile around event).2 := by
  cases stopped with
  | untouched beside => exact ⟨store, beside.placed placed, rfl, .refl _⟩
  | adopted complete user found beside =>
    have same : (store.adopt event user).reconcile around event = store.reconcile around event :=
      MemoryStore.reconcile_adopt keyed complete found
    exact ⟨_, beside.placed placed, by rw [same], by rw [same]; exact .refl _⟩
  | restarted complete user found details states entitled decision unsaved =>
    exact ⟨_, unsaved.beside.placed placed,
      MemoryStore.reconcile_restart keyed complete found (states.details_eq placed) entitled unsaved.decided⟩

theorem Stopped.outlet {origin after : Service} {around : Surroundings} {event : ReconcileEvent} {store : MemoryStore}
    {failure : Failure} (stopped : Stopped origin around event store failure after) : after.outlet = origin.outlet := by
  cases stopped with
  | untouched beside => exact beside.outlet
  | adopted _ _ _ beside => exact beside.outlet
  | restarted _ _ _ _ _ _ _ unsaved => exact unsaved.beside.outlet

def ReconciliationResult.bare (result : ReconciliationResult) : ReconciliationResult :=
  { result with subscription := none }

def SubscriptionDetails.bare (details : SubscriptionDetails) : SubscriptionDetails :=
  { details with subscription := none }

theorem ReconciliationResult.notice_bare (result : ReconciliationResult) (details : SubscriptionDetails) :
    result.bare.notice details.bare = result.notice details :=
  rfl

theorem Announced.outlet_eq {first second left right : Service} {event other : ReconcileEvent}
    {result resultToo : ReconciliationResult} (announced : Announced first event result left)
    (announcedToo : Announced second other resultToo right) (same : first.outlet = second.outlet)
    (results : result.bare = resultToo.bare)
    (stated : ∀ details detailsToo, first.States event details → second.States other detailsToo →
      details.bare = detailsToo.bare) : left.outlet = right.outlet := by
  have news : result.accessUpdated = resultToo.accessUpdated := by
    change result.bare.accessUpdated = resultToo.bare.accessUpdated
    rw [results]
  cases announced with
  | silent idle unchanged =>
    cases announcedToo with
    | silent _ unchangedToo => rw [unchanged, unchangedToo, same]
    | told _ _ updated =>
      rw [← news, idle] at updated
      cases updated
  | told user details updated about states outlet =>
    cases announcedToo with
    | silent idle =>
      rw [← news, updated] at idle
      cases idle
    | told userToo detailsToo _ aboutToo statesToo outletToo =>
      have users : result.user = resultToo.user := by
        change result.bare.user = resultToo.bare.user
        rw [results]
      rw [about, aboutToo] at users
      cases users
      rw [outlet, outletToo, ← result.notice_bare, ← resultToo.notice_bare, results,
        stated details detailsToo states statesToo]
      exact Service.outlet_told same user.id _

namespace Reconciliation

/-- A delivery of an event after one in which calls may have failed, this time without any failures. -/
def redelivered (event : ReconcileEvent) (service : Service) : Outcome ReconciliationResult × Service :=
  (reconcile event).run ((reconcile event).run service).2.calmed

theorem outlet_of_details {first second : Service} {around aroundToo : Surroundings} {store storeToo : MemoryStore}
    {event other : ReconcileEvent} (placed : first.calmed.At around store)
    (placedToo : second.calmed.At aroundToo storeToo) (same : first.outlet = second.outlet)
    (outcome : ((reconcile event).run first).1.map ReconciliationResult.bare =
      ((reconcile other).run second).1.map ReconciliationResult.bare)
    (stated : ∀ details detailsToo, around.details event = .ok details → aroundToo.details other = .ok detailsToo →
      details.bare = detailsToo.bare) :
    ((reconcile event).run first).2.outlet = ((reconcile other).run second).2.outlet := by
  have memory : first.store = .memory store := placed.memory
  have memoryToo : second.store = .memory storeToo := placedToo.memory
  have ends := reconcile_ends event around memory placed.clock
  have endsToo := reconcile_ends other aroundToo memoryToo placedToo.clock
  rcases ran : (reconcile event).run first with ⟨failure | result, left⟩ <;>
    rcases ranToo : (reconcile other).run second with ⟨failureToo | resultToo, right⟩ <;>
    rw [ran, ranToo] at outcome
  · obtain ⟨_, -, stopped⟩ := ends.raised _ _ ran
    obtain ⟨_, -, stoppedToo⟩ := endsToo.raised _ _ ranToo
    rw [stopped.outlet, stoppedToo.outlet, same]
  · cases outcome
  · cases outcome
  · injection outcome with outcome
    refine (ends.returned _ _ ran).outlet_eq (endsToo.returned _ _ ranToo) same outcome ?_
    exact fun details detailsToo states statesToo =>
      stated details detailsToo (states.details_eq placed) (statesToo.details_eq placedToo)

theorem outlet_reconcile {first second : Service} {around : Surroundings} {store other : MemoryStore}
    {event : ReconcileEvent} (placed : first.calmed.At around store) (placedToo : second.calmed.At around other)
    (same : first.outlet = second.outlet)
    (outcome : ((reconcile event).run first).1 = ((reconcile event).run second).1) :
    ((reconcile event).run first).2.outlet = ((reconcile event).run second).2.outlet := by
  refine outlet_of_details placed placedToo same (congrArg _ outcome) fun details detailsToo known knownToo => ?_
  rw [known] at knownToo
  cases knownToo
  rfl

/-- A failed delivery is repaired by the next one. Whatever failures are planned for the calls of a delivery, it fails
if it meets one of them. When it is repeated without failures, the result, the accounts, the entitlements, the
counters and what users were told are those of a delivery that never failed. -/
theorem reconcile_repaired {service : Service} {around : Surroundings} {store : MemoryStore}
    (placed : service.calmed.At around store) (keyed : store.Keyed) (event : ReconcileEvent) :
    (∀ point, service.Met ((reconcile event).run service).2 point →
      ∃ error, ((reconcile event).run service).1 = .error (.billing error)) ∧
    ∀ failure, ((reconcile event).run service).1 = .error failure →
      (redelivered event service).1 = ((reconcile event).run service.calmed).1 ∧
      (redelivered event service).2.outlet = ((reconcile event).run service.calmed).2.outlet ∧
      ∃ repaired direct : MemoryStore, (redelivered event service).2.store = .memory repaired ∧
        ((reconcile event).run service.calmed).2.store = .memory direct ∧ repaired.SameAccess direct := by
  have memory : service.store = .memory store := placed.memory
  have ends := reconcile_ends event around memory placed.clock
  constructor
  · intro point met
    obtain ⟨failure, failed⟩ := (Scripted.reconcile event).fails_of_met memory met
    obtain ⟨_, rfl, -⟩ := ends.raised failure _ (Prod.ext failed rfl)
    exact ⟨_, failed⟩
  · intro failure failed
    obtain ⟨_, -, stopped⟩ := ends.raised failure _ (Prod.ext failed rfl)
    obtain ⟨left, there, outcome, same⟩ := stopped.reconcile placed keyed
    obtain ⟨repeated, arrived⟩ := (reconcile_evaluates event).run there
    obtain ⟨direct, landed⟩ := (reconcile_evaluates event).run placed
    have outcomes := calc
      (redelivered event service).1 = (left.reconcile around event).1 := repeated
      _ = (store.reconcile around event).1 := outcome
      _ = ((reconcile event).run service.calmed).1 := direct.symm
    exact ⟨outcomes, outlet_reconcile there placed stopped.outlet outcomes, _, _, arrived.memory, landed.memory, same⟩

/-- The shop, where saving the entitlement fails once. -/
def unsavedShop : Service := Sample.shop.plan (.store .saveEntitlement) [some (.runtime "store is away")]

theorem reconcile_repaired_save :
    ∃ (error : BillingError) (repaired direct : MemoryStore),
      ((reconcile Sample.checkout).run unsavedShop).1 = .error (.billing error) ∧
      (redelivered Sample.checkout unsavedShop).1 = ((reconcile Sample.checkout).run Sample.shop).1 ∧
      (redelivered Sample.checkout unsavedShop).2.store = .memory repaired ∧
      ((reconcile Sample.checkout).run Sample.shop).2.store = .memory direct ∧ repaired.SameAccess direct := by
  have placed : unsavedShop.calmed.At Sample.around Sample.store := Sample.shop_at
  have spent : ((reconcile Sample.checkout).run unsavedShop).2.faults (.store .saveEntitlement) = [] :=
    List.isEmpty_iff.mp (by decide +kernel)
  obtain ⟨fails, repairs⟩ := reconcile_repaired placed Sample.store_keyed Sample.checkout
  obtain ⟨error, failed⟩ := fails (.store .saveEntitlement)
    ⟨[some (.runtime "store is away")], by rw [spent]; rfl, .runtime "store is away", List.mem_cons_self⟩
  obtain ⟨outcome, -, repaired, direct, there, here, same⟩ := repairs _ failed
  exact ⟨error, repaired, direct, failed, outcome, there, here, same⟩

end Reconciliation

end PaidAccess
