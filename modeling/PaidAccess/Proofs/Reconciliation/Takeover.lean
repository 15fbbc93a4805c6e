import PaidAccess.Proofs.Reconciliation.Triggers
import PaidAccess.Proofs.Service.Sample
/-!
How often the checkouts of one subscription reset a user's usage, over a run of deliveries of any kind. The
decision only knows the subscription that was applied last, so a checkout that is delivered again resets
again if another subscription was applied in between: the resets are the takeovers.
-/

namespace PaidAccess

open Reconciliation

def ReconcileEvent.isCheckoutOf (event : ReconcileEvent) (subscriptionId : String) : Bool :=
  decide (event.source = .checkoutCompleted) && !event.simulated &&
    decide (present? event.subscriptionId = some subscriptionId)

def ReconcileEvent.appliedTo (event : ReconcileEvent) (now : DateTime) (userId : String) :
    Outcome ReconciliationResult → Option String
  | .ok result =>
      if result.accessUpdated ∧ result.user.map (·.id) = some userId then (subscriptionIdOf event now).toOption
      else none
  | .error _ => none

def resetsFor (userId : String) : Outcome ReconciliationResult → Bool
  | .ok result => result.usageReset && decide (result.user.map (·.id) = some userId)
  | .error _ => false

structure Arrival where
  around : Surroundings
  event : ReconcileEvent

def Arrival.Entitled (arrival : Arrival) : Prop :=
  ∀ details, arrival.around.details arrival.event = .ok details →
    StatusBucket.ofStatus details.status = .entitled

/-- How often a checkout of a subscription is applied while the user holds another subscription or none, in
the order of what is applied. -/
def takeovers (subscriptionId : String) : Option String → List (ReconcileEvent × String) → Nat
  | _, [] => 0
  | holder, (event, applied) :: rest =>
      (if event.isCheckoutOf subscriptionId ∧ holder ≠ some subscriptionId then 1 else 0) +
        takeovers subscriptionId (some applied) rest

theorem Arrival.entitled_of_all {arrival : Arrival} (all : (arrival.around.details arrival.event).toOption.all
      (fun details => decide (StatusBucket.ofStatus details.status = .entitled)) = true) : arrival.Entitled := by
  intro details known
  rw [known] at all
  exact of_decide_eq_true all

theorem takeovers_of_holder {subscriptionId : String} {applied : List (ReconcileEvent × String)}
    (alone : ∀ entry ∈ applied, entry.2 = subscriptionId) :
    takeovers subscriptionId (some subscriptionId) applied = 0 := by
  induction applied with
  | nil => rfl
  | cons entry rest ih =>
    have here := alone entry List.mem_cons_self
    have later := ih fun other member => alone other (List.mem_cons_of_mem _ member)
    simp [takeovers, here, later]

theorem takeovers_le_one {subscriptionId : String} (holder : Option String) {applied : List (ReconcileEvent × String)}
    (alone : ∀ entry ∈ applied, entry.2 = subscriptionId) : takeovers subscriptionId holder applied ≤ 1 := by
  cases applied with
  | nil => exact Nat.zero_le 1
  | cons entry rest =>
    have here := alone entry List.mem_cons_self
    have later := takeovers_of_holder fun other member => alone other (List.mem_cons_of_mem _ member)
    simp only [takeovers, here, later]
    split <;> omega

namespace Service

def receive (service : Service) (arrival : Arrival) : Outcome ReconciliationResult × Service :=
  (reconcile arrival.event).run (service.meeting arrival.around)

/-- How many deliveries of a subscription's checkout report a reset of a user's usage. -/
def checkoutResets (service : Service) (userId subscriptionId : String) : List Arrival → Nat
  | [] => 0
  | arrival :: rest =>
      let done := service.receive arrival
      (if arrival.event.isCheckoutOf subscriptionId ∧ resetsFor userId done.1 then 1 else 0) +
        done.2.checkoutResets userId subscriptionId rest

/-- The events that are applied to a user, each with the subscription that the user holds from then on. -/
def applied (service : Service) (userId : String) : List Arrival → List (ReconcileEvent × String)
  | [] => []
  | arrival :: rest =>
      let done := service.receive arrival
      ((arrival.event.appliedTo arrival.around.now userId done.1).toList.map fun id => (arrival.event, id)) ++
        done.2.applied userId rest

end Service

namespace MemoryStore

variable {store after : MemoryStore} {around : Surroundings} {event : ReconcileEvent} {user : User}
  {details : SubscriptionDetails} {result : ReconciliationResult} {userId id : String}

def holder (store : MemoryStore) (userId : String) : Option String :=
  (store.entitlements.get? userId).map (·.subscriptionId)

theorem activate_entitlements_of_error {failure : Failure}
    (failed : (store.activate around event user details).1 = .error failure) :
    (store.activate around event user details).2.entitlements = store.entitlements := by
  cases decided : store.decide around event user details with
  | error failure => rw [activate_of_undecided decided]
  | ok decision =>
    obtain ⟨usage, listed, resets, restarted⟩ := store.restart_eq around.now user decision
    unfold activate carryOut enter at failed ⊢
    rw [decided, proceed_ok] at failed ⊢
    dsimp only at failed ⊢
    cases outcome : (store.restart around.now user decision).1 with
    | error failure => rw [proceed_error, restarted]
    | ok counters =>
      rw [outcome, proceed_ok] at failed
      rw [proceed_ok]
      cases paying : payer event user with
      | error failure => rw [proceed_error, restarted]
      | ok customerId =>
        rw [paying] at failed
        cases failed

theorem deliver_entitlements_of_error {failure : Failure}
    (failed : (store.deliver around event user).1 = .error failure) :
    (store.deliver around event user).2.entitlements = store.entitlements := by
  unfold deliver at failed ⊢
  dsimp only at failed ⊢
  cases known : around.details event with
  | error failure => rw [proceed_error, adopt_entitlements]
  | ok details =>
    rw [known, proceed_ok, settle] at failed
    rw [proceed_ok, settle]
    cases bucket : StatusBucket.ofStatus details.status with
    | entitled =>
      rw [bucket] at failed
      rw [activate_entitlements_of_error failed, adopt_entitlements]
    | revoked =>
      rw [bucket] at failed
      cases failed
    | unknown =>
      rw [bucket] at failed
      cases failed

theorem reconcile_entitlements_of_error {failure : Failure}
    (failed : (store.reconcile around event).1 = .error failure) :
    (store.reconcile around event).2.entitlements = store.entitlements := by
  unfold reconcile at failed ⊢
  split
  next complete =>
    rw [if_pos complete] at failed
    cases resolved : store.resolve event with
    | error failure => rw [reported_store]
    | ok found =>
      cases found with
      | none => rfl
      | some user =>
        rw [resolved] at failed
        rw [reported_store]
        cases outcome : (store.deliver around event user).1 with
        | error failure => exact deliver_entitlements_of_error outcome
        | ok result =>
          dsimp only at failed
          rw [reported_eq_ok_iff.mpr (Prod.ext outcome rfl)] at failed
          cases failed
  next => rfl

theorem reconcile_cases (entitled : ∀ details, around.details event = .ok details →
      StatusBucket.ofStatus details.status = .entitled)
    (reconciled : store.reconcile around event = (.ok result, after)) :
    (result = .skipped ∧ after = store) ∨
    ∃ (user : User) (decision : Decision) (saved : Entitlement),
      result.user = some user ∧ result.accessUpdated = true ∧ result.usageReset = decision.usageReset ∧
      subscriptionIdOf event around.now = .ok decision.subscriptionId ∧
      resetsUsage .entitled (.of event (store.entitlements.get? user.id) decision.plan decision.subscriptionId
        decision.grant) = .ok decision.usageReset ∧
      saved.subscriptionId = decision.subscriptionId ∧
      after.entitlements = store.entitlements.insert user.id saved := by
  rcases reconcile_eq_ok_iff.mp reconciled with ⟨-, skipped⟩ | ⟨-, user, -, delivered⟩
  · exact .inl skipped
  · obtain ⟨details, known, settled⟩ := proceed_eq_ok_iff.mp delivered
    rw [settle_of_entitled (entitled details known)] at settled
    obtain ⟨decision, decided, carried⟩ := activate_eq_ok_iff.mp settled
    obtain ⟨-, -, named, -, resets⟩ := decide_eq_ok_iff.mp decided
    obtain ⟨customerId, -, saved⟩ := entitlements_of_carryOut carried
    obtain ⟨-, -, -, -, rfl, -⟩ := carryOut_eq_ok_iff.mp carried
    rw [adopt_entitlements] at resets saved
    exact .inr ⟨event.adopted user, decision, _, rfl, rfl, rfl, named, resets, rfl, saved⟩

theorem usageReset_of_checkout {decision : Decision} (checkout : event.isCheckoutOf id)
    (named : subscriptionIdOf event around.now = .ok decision.subscriptionId)
    (decided : resetsUsage .entitled (.of event (store.entitlements.get? userId) decision.plan decision.subscriptionId
      decision.grant) = .ok decision.usageReset) :
    decision.usageReset = true ↔ store.holder userId ≠ some id := by
  simp only [ReconcileEvent.isCheckoutOf, Bool.and_eq_true, decide_eq_true_eq, Bool.not_eq_true'] at checkout
  obtain ⟨⟨source, real⟩, present⟩ := checkout
  rw [subscriptionIdOf_of_present present] at named
  injection named with same
  obtain ⟨newCycle, dated, -⟩ := Outcome.bind_eq_ok_iff.mp decided
  have fires : (Activation.of event (store.entitlements.get? userId) decision.plan decision.subscriptionId
    decision.grant).resetsUsage = .ok decision.usageReset := decided
  rw [Activation.resetsUsage_of_dated dated] at fires
  injection fires with fires
  rw [← fires, same]
  simp only [Activation.fires, Activation.of, source, real, Activation.isNewSubscription, Bool.false_or, holder]
  cases store.entitlements.get? userId with
  | none => simp
  | some held =>
    rw [Option.map_some, bne_iff_ne]
    exact ne_comm

/-- What one delivery does: a user holds the subscription of an event that is applied to them and keeps what
they hold otherwise, and a checkout that is applied resets usage exactly if they held another subscription
or none. -/
theorem reconcile_holder (entitled : ∀ details, around.details event = .ok details →
      StatusBucket.ofStatus details.status = .entitled) (userId id : String) :
    (store.reconcile around event).2.holder userId =
        (event.appliedTo around.now userId (store.reconcile around event).1).or (store.holder userId) ∧
      (event.isCheckoutOf id → (resetsFor userId (store.reconcile around event).1 = true ↔
        (event.appliedTo around.now userId (store.reconcile around event).1).isSome ∧
          store.holder userId ≠ some id)) := by
  cases outcome : (store.reconcile around event).1 with
  | error failure =>
    refine ⟨?_, fun _ => by simp [resetsFor, ReconcileEvent.appliedTo]⟩
    rw [holder, reconcile_entitlements_of_error outcome]
    rfl
  | ok result =>
    have reconciled : store.reconcile around event = (.ok result, (store.reconcile around event).2) :=
      Prod.ext outcome rfl
    rcases reconcile_cases entitled reconciled with
      ⟨rfl, kept⟩ | ⟨user, decision, saved, about, updated, reset, named, resets, subject, stored⟩
    · rw [kept]
      exact ⟨rfl, fun _ => by simp [resetsFor, ReconcileEvent.appliedTo, ReconciliationResult.skipped]⟩
    · by_cases same : user.id = userId
      · subst same
        have applied : event.appliedTo around.now user.id (.ok result) = some decision.subscriptionId := by
          simp [ReconcileEvent.appliedTo, updated, about, named, Except.toOption]
        rw [applied]
        refine ⟨?_, fun checkout => ?_⟩
        · rw [holder, stored, OrderedMap.get?_insert_self, Option.map_some, subject]
          rfl
        · rw [← usageReset_of_checkout checkout named resets]
          simp [resetsFor, reset, about]
      · have elsewhere : event.appliedTo around.now userId (.ok result) = none := by
          simp [ReconcileEvent.appliedTo, about, same]
        rw [elsewhere]
        refine ⟨?_, fun checkout => ?_⟩
        · rw [holder, stored, OrderedMap.get?_insert_of_ne _ _ (Ne.symm same)]
          rfl
        · simp [resetsFor, about, same]

end MemoryStore

theorem Service.At.checkoutResets {service : Service} {around : Surroundings} {store : MemoryStore}
    (placed : service.At around store) (userId subscriptionId : String) {arrivals : List Arrival}
    (entitled : ∀ arrival ∈ arrivals, arrival.Entitled) :
    service.checkoutResets userId subscriptionId arrivals =
      takeovers subscriptionId (store.holder userId) (service.applied userId arrivals) := by
  induction arrivals generalizing service around store with
  | nil => rfl
  | cons arrival rest ih =>
    obtain ⟨outcome, there⟩ := (reconcile_evaluates arrival.event).run (placed.meeting arrival.around)
    obtain ⟨held, resets⟩ := store.reconcile_holder
      (entitled arrival List.mem_cons_self) userId subscriptionId
    have others := ih there fun other member => entitled other (List.mem_cons_of_mem _ member)
    unfold Service.checkoutResets Service.applied Service.receive
    dsimp only
    rw [others, held, outcome]
    have counts := and_congr_right resets
    cases applied : arrival.event.appliedTo arrival.around.now userId (store.reconcile arrival.around arrival.event).1 with
    | none =>
      rw [if_neg fun both => ?absurd, Nat.zero_add]
      · rfl
      case absurd =>
        have reported := (counts.mp both).2.1
        rw [applied] at reported
        cases reported
    | some id =>
      rw [applied] at counts
      simp only [counts, Option.isSome_some, true_and]
      rfl

namespace Reconciliation

/-- The checkouts of a subscription reset a user's usage at most once exactly if the subscription is taken over
by a checkout at most once: it is not bought back, by a checkout that is delivered again, from another
subscription that was applied in between. -/
theorem checkout_grants_once_iff {service : Service} {around : Surroundings} {store : MemoryStore}
    (placed : service.At around store) (userId subscriptionId : String) {arrivals : List Arrival}
    (entitled : ∀ arrival ∈ arrivals, arrival.Entitled) :
    service.checkoutResets userId subscriptionId arrivals ≤ 1 ↔
      takeovers subscriptionId (store.holder userId) (service.applied userId arrivals) ≤ 1 := by
  rw [placed.checkoutResets userId subscriptionId entitled]

def twoSubscriptions : ProviderTables :=
  { ProviderTables.empty with
    subscriptions := .ofList [("sub_1", Sample.subscription "sub_1" "active" "prod_basic"),
      ("sub_2", Sample.subscription "sub_2" "active" "prod_studio")] }

def checkoutArrival (seconds : Nat) (subscriptionId : String) : Arrival :=
  ⟨twoSubscriptions.around (Sample.march 0 (36000 + seconds)), Sample.event .checkoutCompleted subscriptionId⟩

/-- A checkout that is delivered twice resets usage once. -/
theorem checkout_grants_once_of_redelivery :
    Sample.shop.checkoutResets "u1" "sub_1" [checkoutArrival 0 "sub_1", checkoutArrival 5 "sub_1"] ≤ 1 := by
  have entitled : ∀ arrival ∈ [checkoutArrival 0 "sub_1", checkoutArrival 5 "sub_1"], arrival.Entitled := by
    intro arrival member
    simp only [List.mem_cons, List.not_mem_nil, or_false] at member
    rcases member with rfl | rfl <;> exact Arrival.entitled_of_all (by decide +kernel)
  exact (checkout_grants_once_iff Sample.shop_at "u1" "sub_1" entitled).mpr
    (takeovers_le_one _ (by decide +kernel))

/-- A checkout that is delivered again after that of another subscription resets usage again. -/
theorem checkout_grants_again_after_another :
    (∀ arrival ∈ [checkoutArrival 0 "sub_1", checkoutArrival 5 "sub_2", checkoutArrival 10 "sub_1"],
      arrival.Entitled ∧ arrival.around.Forward arrival.event) ∧
    Sample.shop.checkoutResets "u1" "sub_1"
      [checkoutArrival 0 "sub_1", checkoutArrival 5 "sub_2", checkoutArrival 10 "sub_1"] = 2 := by
  constructor
  · intro arrival member
    simp only [List.mem_cons, List.not_mem_nil, or_false] at member
    rcases member with rfl | rfl | rfl <;>
      exact ⟨Arrival.entitled_of_all (by decide +kernel), Surroundings.forward_of_all (by decide +kernel)⟩
  · decide +kernel

end Reconciliation

end PaidAccess
