import PaidAccess.Proofs.Reconciliation.Interruption
import PaidAccess.Proofs.Reconciliation.Triggers
import PaidAccess.Proofs.Service.Sample
/-!
What an event changes that is refused: next to nothing. The provider may answer anything, and any calls may fail.
The entitlements stay, nobody is told anything, and the counters stay as well, unless they were reset and the
entitlement could not be saved after that.
-/

namespace PaidAccess

open Reconciliation

namespace MemoryStore

variable {store : MemoryStore} {event : ReconcileEvent} {user : User} {decision : Decision} {now : DateTime}

theorem users_adopt (keyed : store.Keyed) (found : store.resolve event = .ok (some user)) :
    (store.adopt event user).users = store.users ∨
      ∃ customer, present? event.customerId = some customer ∧
        (store.adopt event user).users = store.users.insert user.id { user with customerId := .text customer } := by
  cases named : present? event.customerId with
  | none =>
    left
    unfold adopt
    rw [named]
  | some customer =>
    refine .inr ⟨customer, rfl, ?_⟩
    rw [adopt_users keyed found, ReconcileEvent.adopted, named]

theorem usage_of_unmade {failure : Failure} (unmade : (store.restart now user decision).1 = .error failure) :
    (store.restart now user decision).2.usage = store.usage := by
  unfold restart at unmade ⊢
  split
  next reset =>
    rw [if_pos reset] at unmade
    unfold resetUsage at unmade ⊢
    dsimp only at unmade ⊢
    split
    next => rfl
    next counters fresh =>
      rw [fresh] at unmade
      cases unmade
  next => rfl

/-- Whether the accounts are what they were, apart from the customer of the user that an event is about. -/
def OnlyCustomer (store after : MemoryStore) (event : ReconcileEvent) : Prop :=
  after.users = store.users ∨
    ∃ user customer, store.resolve event = .ok (some user) ∧ present? event.customerId = some customer ∧
      after.users = store.users.insert user.id { user with customerId := .text customer }

/-- Whether the counters of a plan were set to zero for the user that an event is about, and no others. -/
def OnlyReset (store after : MemoryStore) (event : ReconcileEvent) (now : DateTime) : Prop :=
  ∃ (user : User) (plan : Plan) (start finish : DateTime) (counters : List UsageCounter),
    store.resolve event = .ok (some user) ∧
    plan.freshCounters (.text user.id) (some start) (some finish) now = .ok counters ∧
    after.usage = store.usage.enter UsageCounter.key counters

/-- Whether the customer of an event's user is a text or missing. Accounts that were read from rows have no other,
and the service records no other. -/
def Payable (store : MemoryStore) (event : ReconcileEvent) : Prop :=
  ∀ user, store.resolve event = .ok (some user) → ∃ customer, user.customerId = .ofText? customer

end MemoryStore

theorem Stopped.kept {origin after : Service} {around : Surroundings} {event : ReconcileEvent} {store : MemoryStore}
    {cause : Failure} (stopped : Stopped origin around event store cause after) (keyed : store.Keyed) :
    ∃ left : MemoryStore, after.store = .memory left ∧ after.outlet = origin.outlet ∧
      left.entitlements = store.entitlements ∧ store.OnlyCustomer left event ∧
      (store.Payable event → left.usage = store.usage ∨
        origin.faults (.store .saveEntitlement) = some cause :: after.faults (.store .saveEntitlement) ∧
          store.OnlyReset left event around.now) := by
  cases stopped with
  | untouched beside => exact ⟨store, beside.memory, beside.outlet, rfl, .inl rfl, fun _ => .inl rfl⟩
  | adopted complete user found beside =>
    refine ⟨_, beside.memory, beside.outlet, store.adopt_entitlements event user, ?_,
      fun _ => .inl (store.adopt_usage event user)⟩
    exact (MemoryStore.users_adopt keyed found).imp_right fun ⟨customer, named, users⟩ =>
      ⟨user, customer, found, named, users⟩
  | restarted complete user found details states entitled decision unsaved =>
    have users := MemoryStore.restart_users (store.adopt event user) around.now (event.adopted user) decision
    refine ⟨_, unsaved.beside.memory, unsaved.beside.outlet, ?_, ?_, fun payable => ?_⟩
    · rw [MemoryStore.restart_entitlements, MemoryStore.adopt_entitlements]
    · unfold MemoryStore.OnlyCustomer
      rw [users]
      exact (MemoryStore.users_adopt keyed found).imp_right fun ⟨customer, named, users⟩ =>
        ⟨user, customer, found, named, users⟩
    · cases made : ((store.adopt event user).restart around.now (event.adopted user) decision).1 with
      | error failure =>
        rw [MemoryStore.usage_of_unmade made, MemoryStore.adopt_usage]
        exact .inl rfl
      | ok counters =>
        obtain ⟨fresh, listed, resets, entered⟩ := MemoryStore.restart_of_reset unsaved.reset made
        obtain ⟨customer, paying⟩ := payable user found
        have paid : payer event (event.adopted user) = .ok _ := MemoryStore.payer_of_customer paying
        rcases unsaved.cause with unmade | unpaid | planned
        · rw [made] at unmade
          cases unmade
        · rw [paid] at unpaid
          cases unpaid
        · rw [event.adopted_id] at fresh
          rw [entered]
          exact .inr ⟨planned, user, decision.plan, _, _, counters, found, fresh,
            congrArg (·.enter UsageCounter.key counters) (store.adopt_usage event user)⟩

namespace Reconciliation

/-- An event that is refused changes next to nothing, and always with a billing error. Whatever the provider answers
and whatever calls fail, the entitlements are kept and nobody is told anything; of the accounts, only the customer of
the event's user can have been recorded; and if that user can pay, the counters are kept unless it was saving the
entitlement that failed, after the counters had been reset. How users are told, and whether that fails, changes
neither the outcome nor the store. -/
theorem reconcile_atomic {service : Service} {store : MemoryStore} (memory : service.store = .memory store)
    (keyed : store.Keyed) (event : ReconcileEvent) :
    (∀ failure, ((reconcile event).run service).1 = .error failure →
      ∃ (cause : Failure) (after : MemoryStore), failure = .billing (event.report cause) ∧
        ((reconcile event).run service).2.store = .memory after ∧
        ((reconcile event).run service).2.outlet = service.outlet ∧
        after.entitlements = store.entitlements ∧ store.OnlyCustomer after event ∧
        (store.Payable event → after.usage = store.usage ∨
          service.faults (.store .saveEntitlement) =
              some cause :: ((reconcile event).run service).2.faults (.store .saveEntitlement) ∧
            store.OnlyReset after event service.now)) ∧
    ∀ outlet, ((reconcile event).run (service.through outlet)).1 = ((reconcile event).run service).1 ∧
      ((reconcile event).run (service.through outlet)).2.store = ((reconcile event).run service).2.store := by
  constructor
  · intro failure failed
    -- what can be left was stated for known answers of the provider, but `kept` makes no use of them
    let around : Surroundings := ⟨service.now, fun _ => .error .mismatch, fun _ => .error .mismatch⟩
    have ends := reconcile_ends event around memory rfl
    obtain ⟨cause, reported, stopped⟩ := ends.raised failure _ (Prod.ext failed rfl)
    obtain ⟨after, left, untold, entitlements, users, usage⟩ := stopped.kept keyed
    exact ⟨cause, after, reported, left, untold, entitlements, users, usage⟩
  · intro outlet
    obtain ⟨outcome, after, afterToo, left, ran, ranToo, same, -⟩ :=
      (Scripted.reconcile event).course memory (service.core_through outlet)
    rw [ran, ranToo]
    exact ⟨rfl, congrArg Core.store same⟩

/-- The shop, where saving the entitlement fails and so does every attempt to tell users something. -/
def brokenShop : Service :=
  (Sample.shop.plan (.store .saveEntitlement) [some (.connection "store is away")]).through
    { Sample.shop.outlet with notifier := .broken }

theorem reconcile_atomic_save :
    ∃ (cause : Failure) (after : MemoryStore),
      ((reconcile Sample.checkout).run brokenShop).1 = .error (.billing (Sample.checkout.report cause)) ∧
      ((reconcile Sample.checkout).run brokenShop).2.store = .memory after ∧
      after.entitlements = Sample.store.entitlements ∧ Sample.store.OnlyReset after Sample.checkout brokenShop.now := by
  have found : Sample.store.resolve Sample.checkout = .ok (some Sample.user) := rfl
  have payable : Sample.store.Payable Sample.checkout := by
    rintro user about
    rw [found] at about
    cases about
    exact ⟨some "cus_1", rfl⟩
  have refused : ((reconcile Sample.checkout).run brokenShop).1.toOption.isNone = true := by decide +kernel
  have counted : (((reconcile Sample.checkout).run brokenShop).2.memory?.map (·.usage.entries.length)) = some 2 := by
    decide +kernel
  cases failed : ((reconcile Sample.checkout).run brokenShop).1 with
  | ok result =>
    rw [failed] at refused
    cases refused
  | error failure =>
    have memory : brokenShop.store = .memory Sample.store := rfl
    obtain ⟨cause, after, rfl, left, -, entitlements, -, usage⟩ :=
      (reconcile_atomic memory Sample.store_keyed Sample.checkout).1 failure failed
    refine ⟨cause, after, rfl, left, entitlements, ((usage payable).resolve_left fun unchanged => ?_).2⟩
    simp only [Service.memory?, left, Option.map_some, unchanged] at counted
    cases counted

end Reconciliation

end PaidAccess
