import PaidAccess.Proofs.Credits.Effect
import PaidAccess.Proofs.Reconciliation.Activation
import PaidAccess.Proofs.Store.Steps
/-!
The stores that a service can reach, through operations that put in no point in time without a zone. All of
them are keyed, and their expiries and the windows of their counters have zones. Reconciliation, cancellations
and requests about credits stay among them as long as the clock has a zone.
-/

namespace PaidAccess

open Reconciliation

def ZonedIfKnown (time : Option DateTime) : Prop := ∀ known, time = some known → known.Zoned

def StoreOp.Zoned : StoreOp → Prop
  | .saveEntitlement entitlement => entitlement.expiresAt.Zoned
  | .resetUsage _ _ start finish => ZonedIfKnown start ∧ ZonedIfKnown finish
  | .openCounter _ _ start finish => ZonedIfKnown start ∧ ZonedIfKnown finish
  | _ => True

def UsageCounter.Zoned (counter : UsageCounter) : Prop := counter.start.Zoned ∧ counter.finish.Zoned

theorem StoreOp.Zoned.window {op : StoreOp} (zoned : op.Zoned) {start finish : Option DateTime}
    (opens : op.window? = some (start, finish)) : ZonedIfKnown start ∧ ZonedIfKnown finish := by
  cases op with
  | resetUsage | openCounter =>
    cases opens
    exact zoned
  | _ => cases opens

theorem StoreOp.Opens.zoned {op : StoreOp} {counter : UsageCounter} (opens : op.Opens counter) (dated : op.Zoned) :
    counter.Zoned := by
  obtain ⟨finish, window, ends⟩ := opens.window
  obtain ⟨starts, closes⟩ := dated.window window
  refine ⟨starts _ rfl, ?_⟩
  rcases ends with cycle | ⟨date, day⟩
  · exact closes _ cycle
  · rw [day]
    exact DateTime.dayEnd_zoned date

namespace MemoryStore

def Windowed (store : MemoryStore) : Prop := ∀ key counter, store.usage.get? key = some counter → counter.Zoned

variable {store : MemoryStore}

theorem Windowed.apply (windowed : store.Windowed) (now : DateTime) {op : StoreOp} (zoned : op.Zoned) :
    (store.apply now op).2.Windowed :=
  forall_counters_apply windowed (fun _ opens => opens.zoned zoned) (fun _ _ _ _ _ _ _ _ _ _ _ window => window) now

theorem Zoned.erase (zoned : store.Zoned) (userId : String) :
    { store with entitlements := store.entitlements.erase userId }.Zoned := by
  intro other held found
  dsimp only at found
  rw [OrderedMap.get?_erase] at found
  split at found
  next => cases found
  next => exact zoned other held found

theorem Zoned.apply (zoned : store.Zoned) (now : DateTime) {op : StoreOp} (dated : op.Zoned) :
    (store.apply now op).2.Zoned := by
  have removed : { store with entitlements := ((store.revoked op).map store.entitlements.erase).getD store.entitlements }.Zoned := by
    cases store.revoked op with
    | none => exact zoned
    | some userId => exact zoned.erase userId
  have after := entitlements_apply store now op
  cases op with
  | saveEntitlement entitlement => exact zoned.addEntitlement dated
  | _ => exact removed.of_entitlements after

/-- The stores that operations with zoned times lead to, from one that holds users and plans only. -/
inductive Reachable : MemoryStore → Prop where
  | empty : Reachable .empty
  | addUser {store : MemoryStore} (reached : Reachable store) (user : User) : Reachable (store.addUser user)
  | addPlan {store : MemoryStore} (reached : Reachable store) (plan : Plan) : Reachable (store.addPlan plan)
  | apply {store : MemoryStore} (reached : Reachable store) (now : DateTime) (op : StoreOp) (zoned : op.Zoned) :
      Reachable (store.apply now op).2

structure Sound (store : MemoryStore) : Prop where
  keyed : store.Keyed
  zoned : store.Zoned
  windowed : store.Windowed

theorem Sound.windows {store : MemoryStore} (sound : store.Sound) {userId : String} {feature : FeatureKey} :
    ∀ counter ∈ store.countersOf (.text userId) feature, counter.start.Zoned ∧ counter.finish.Zoned :=
  fun counter member => sound.windowed _ counter ((mem_countersOf sound.keyed).mp member).1

namespace Reachable

variable {store : MemoryStore}

theorem sound (reached : store.Reachable) : store.Sound := by
  induction reached with
  | empty => exact ⟨.empty, by rintro _ _ ⟨⟩, by rintro _ _ ⟨⟩⟩
  | addUser _ user ih => exact ⟨ih.keyed.addUser user, ih.zoned, ih.windowed⟩
  | addPlan _ plan ih => exact ⟨ih.keyed.addPlan plan, ih.zoned, ih.windowed⟩
  | apply _ now op zoned ih => exact ⟨ih.keyed.apply now op, ih.zoned.apply now zoned, ih.windowed.apply now zoned⟩

section Reconciliation

variable {around : Surroundings} {event : ReconcileEvent} {user : User} {details : SubscriptionDetails}

theorem adopt (reached : store.Reachable) (now : DateTime) (event : ReconcileEvent) (user : User) :
    (store.adopt event user).Reachable := by
  unfold MemoryStore.adopt
  split
  next => exact reached
  next customer _ =>
    split
    next => exact reached
    next => exact reached.apply now (.assignCustomer (.text user.id) (.text customer)) trivial

theorem restart (reached : store.Reachable) (now : DateTime) (user : User) {decision : Decision}
    (starts : decision.grant.start.Zoned) (ends : decision.grant.finish.Zoned) :
    (store.restart now user decision).2.Reachable := by
  unfold MemoryStore.restart
  split
  next =>
    exact reached.apply now
      (.resetUsage (.text user.id) decision.plan (some decision.grant.start) (some decision.grant.finish))
      ⟨by rintro _ ⟨⟩; exact starts, by rintro _ ⟨⟩; exact ends⟩
  next => exact reached

theorem activate (reached : store.Reachable) (now : around.now.Zoned) (known : around.details event = .ok details)
    (entitled : StatusBucket.ofStatus details.status = .entitled) :
    (store.activate around event user details).2.Reachable := by
  unfold MemoryStore.activate
  cases decided : store.decide around event user details with
  | error failure => exact reached
  | ok decision =>
    obtain ⟨-, -, starts, ends⟩ := grantOf_eq_ok_iff.mp (decide_eq_ok_iff.mp decided).1
    obtain ⟨startZoned, finishZoned⟩ := around.period_zoned now known entitled
    have restarted := reached.restart around.now user (startZoned _ starts) (finishZoned _ ends)
    rw [proceed_ok, carryOut]
    cases (store.restart around.now user decision).1 with
    | error failure => exact restarted
    | ok counters =>
      rw [proceed_ok, enter]
      cases payer event user with
      | error failure => exact restarted
      | ok customerId =>
        exact restarted.apply around.now
          (.saveEntitlement (decision.entitlement user customerId details.cancelAtPeriodEnd)) (finishZoned _ ends)

theorem reconcile (reached : store.Reachable) (now : around.now.Zoned) (event : ReconcileEvent) :
    (store.reconcile around event).2.Reachable := by
  unfold MemoryStore.reconcile
  split
  next =>
    split
    next =>
      rw [reported_store]
      exact reached
    next => exact reached
    next user _ =>
      have adopted := reached.adopt around.now event user
      rw [reported_store, deliver]
      cases known : around.details event with
      | error failure => exact adopted
      | ok details =>
        rw [proceed_ok, settle]
        split
        next entitled => exact adopted.activate now known entitled
        next => exact adopted.apply around.now (.revoke (.text _)) trivial
        next => exact adopted
  next => exact reached

end Reconciliation

section Credits

variable {now : DateTime}

theorem openToday (reached : store.Reachable) (now : DateTime) {entitlement : Entitlement}
    (zoned : entitlement.expiresAt.Zoned) : (store.openToday now entitlement).2.Reachable := by
  unfold MemoryStore.openToday
  rw [dailyWindow_of_zoned zoned, proceed_ok]
  exact reached.apply now
    (.openCounter (.text entitlement.userId) .aiCredits (some (.dayStart now.date))
      (some (creditsClose now entitlement.expiresAt)))
    ⟨by rintro _ ⟨⟩; exact DateTime.dayStart_zoned _, by rintro _ ⟨⟩; exact creditsClose_zoned zoned now⟩

theorem todaysCounter (reached : store.Reachable) (now : DateTime) {entitlement : Entitlement}
    (zoned : entitlement.expiresAt.Zoned) : (store.todaysCounter now entitlement).2.Reachable := by
  unfold MemoryStore.todaysCounter
  rcases store.findActiveUsage (.text entitlement.userId) .aiCredits (some now) with failure | counter | counter
  · exact reached
  · exact reached.openToday now zoned
  · exact reached

theorem charge (reached : store.Reachable) (now : DateTime) (userId : Value) (amount : Amount) (limit : Int)
    (counter : UsageCounter) : (store.charge now userId amount limit counter).2.Reachable := by
  have spent := reached.apply now
    (.spend userId .aiCredits (some counter.start) amount.toValue (.int limit)) trivial
  unfold MemoryStore.charge
  revert spent
  generalize store.apply now _ = result
  intro spent
  rcases result with ⟨failure | updated | updated, after⟩ <;> exact spent

theorem consume (reached : store.Reachable) (now : DateTime) (userId : Value) (amount : Amount) :
    (store.consume now userId amount).2.Reachable := by
  unfold MemoryStore.consume
  split
  next => exact reached
  next =>
    cases found : store.unexpired userId now with
    | error failure => exact reached
    | ok entitlement =>
      obtain ⟨⟨id, -, held⟩, -⟩ := unexpired_eq_ok_iff.mp found
      rw [proceed_ok]
      cases store.quota entitlement.planId with
      | error failure => exact reached
      | ok limit =>
        have opened := reached.todaysCounter now (reached.sound.zoned id entitlement held)
        rw [proceed_ok]
        dsimp only
        cases (store.todaysCounter now entitlement).1 with
        | error failure => exact opened
        | ok counter => exact opened.charge now userId amount limit counter

theorem openAll (reached : store.Reachable) (now : DateTime) {entitlements : List Entitlement}
    (zoned : ∀ entitlement ∈ entitlements, entitlement.expiresAt.Zoned) :
    (store.openAll now entitlements).2.Reachable := by
  induction entitlements generalizing store with
  | nil => exact reached
  | cons entitlement rest ih =>
    have here : (store.openFor now entitlement).2.Reachable := by
      unfold openFor
      split
      next => exact reached
      next => exact reached.openToday now (zoned entitlement List.mem_cons_self)
    exact ih here fun other member => zoned other (List.mem_cons_of_mem _ member)

theorem credit (reached : store.Reachable) (now : DateTime) (call : CreditCall) :
    (store.credit now call).2.Reachable := by
  cases call with
  | spend userId amount =>
    rw [(credit_spend store now userId amount).2]
    exact reached.consume now userId amount
  | openDay =>
    rw [credit_openDay]
    unfold resetDaily
    cases active : store.activeEntitlements (some now) with
    | error failure => exact reached
    | ok entitlements =>
      refine reached.openAll now fun entitlement member => ?_
      have listed : entitlement ∈ store.entitlements.values := Outcome.mem_of_filter active member
      exact reached.sound.zoned _ _ (reached.sound.keyed.entitlements.mem_values_iff.mp listed)

end Credits

end Reachable

end MemoryStore

end PaidAccess
