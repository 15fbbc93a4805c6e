import PaidAccess.Checkout
import PaidAccess.Proofs.Service.Reachable
import PaidAccess.Proofs.Service.Sample
/-!
Whether a reset that is reported takes effect. A reset writes the counter of the cycle, while spending and the
summary look at the counter that is active, the open one that started last. In the middle of a cycle that may be
one of the day's own, which the reset leaves alone.
-/

namespace PaidAccess

open Reconciliation

namespace MemoryStore

def info (store : MemoryStore) (now : DateTime) (userId : Value) : Outcome SubscriptionInfo := do
  match ← atKey none store.entitlements.get? userId with
  | none => .error (.billing .subscriptionMissing)
  | some entitlement => do
      let plan := store.findPlan (.text entitlement.planId)
      let counter ← store.findActiveUsage userId .aiCredits (some now)
      let used ← Checkout.creditsUsed counter
      return { planId := entitlement.planId, expiresAt := entitlement.expiresAt
               cancelAtPeriodEnd := entitlement.cancelAtPeriodEnd, creditsUsed := used
               dailyCredits := plan.bind (·.dailyCredits), storageMegabytes := plan.bind (·.storageMegabytes)
               createdAt := entitlement.createdAt }

end MemoryStore

theorem Checkout.info_evaluates {around : Surroundings} {store : MemoryStore} (userId : Value) :
    Evaluates around store (info userId) (store.info around.now userId, store) := by
  unfold info
  refine .bind_outcome (.perform _) fun found => ?_
  cases found with
  | none => exact .refuse _
  | some entitlement =>
    refine .bind (.perform _) (.bind .now ?_)
    refine .bind_outcome (.perform _) fun counter => .bind_outcome (.lift _) fun used => .pure _

def cycleCounter (userId : String) (now start finish : DateTime) : UsageCounter :=
  ⟨userId, .aiCredits, .whole 0, start, creditsClose now finish⟩

@[simp] theorem cycleCounter_start (userId : String) (now start finish : DateTime) :
    (cycleCounter userId now start finish).start = start := rfl

theorem cycleCounter_covers {userId : String} {now start finish : DateTime} (begun : start.instant ≤ now.instant)
    (lasting : now.instant < finish.instant) (early : now.instant < (DateTime.dayEnd now.date).instant) :
    (cycleCounter userId now start finish).Covers now := by
  refine ⟨begun, ?_⟩
  unfold cycleCounter creditsClose
  dsimp only
  split
  next => exact lasting
  next => exact early

theorem key_eq_cycleCounter_iff {userId : String} {now start finish : DateTime} {counter : UsageCounter}
    (user : counter.userId = userId) (feature : counter.feature = .aiCredits) (zoned : counter.start.Zoned)
    (starts : start.Zoned) :
    counter.key = (cycleCounter userId now start finish).key ↔ counter.start.instant = start.instant := by
  simp only [UsageCounter.key, cycleCounter, user, feature, zoned.moment, starts.moment, UsageKey.mk.injEq, true_and,
    Moment.instant.injEq]

/-- A store before and after the counters of a plan with a daily quota were entered for a cycle. -/
structure Entered (before after : MemoryStore) (plan : Plan) (userId : String) (now start finish : DateTime) : Prop where
  sound : before.Sound
  keyed : after.Keyed
  metered : plan.dailyCredits.isSome
  entered : after.usage = before.usage.enter UsageCounter.key
    (plan.zeroCounters userId start finish (creditsClose now finish))
  zoned : now.Zoned
  starts : start.Zoned
  ends : finish.Zoned

namespace Entered

open MemoryStore

variable {before after : MemoryStore} {plan : Plan} {userId : String} {now start finish : DateTime}

theorem mem_countersOf (done : Entered before after plan userId now start finish) {counter : UsageCounter} :
    counter ∈ after.countersOf (.text userId) .aiCredits ↔
      counter = cycleCounter userId now start finish ∨
        counter ∈ before.countersOf (.text userId) .aiCredits ∧
          counter.key ≠ (cycleCounter userId now start finish).key := by
  have distinct := plan.zeroCounters_distinct userId start finish (creditsClose now finish)
  have cycle : after.usage.get? (cycleCounter userId now start finish).key =
      some (cycleCounter userId now start finish) := by
    rw [done.entered]
    exact OrderedMap.get?_enter_of_mem before.usage distinct (Plan.mem_zeroCounters.mpr (.inl ⟨done.metered, rfl⟩))
  rw [MemoryStore.mem_countersOf done.keyed, MemoryStore.mem_countersOf done.sound.keyed]
  constructor
  · rintro ⟨found, user, feature⟩
    by_cases same : counter.key = (cycleCounter userId now start finish).key
    · rw [same, cycle] at found
      cases found
      exact .inl rfl
    · rw [done.entered] at found
      rcases OrderedMap.mem_or_get?_of_enter found with ⟨fresh, -⟩ | old
      · rcases Plan.mem_zeroCounters.mp fresh with ⟨-, rfl⟩ | ⟨-, rfl⟩
        · exact .inl rfl
        · cases feature
      · exact .inr ⟨⟨old, user, feature⟩, same⟩
  · rintro (rfl | ⟨⟨found, user, feature⟩, different⟩)
    · exact ⟨cycle, rfl, rfl⟩
    · refine ⟨?_, user, feature⟩
      rw [done.entered, OrderedMap.get?_enter_of_forall_ne]
      · exact found
      · intro other fresh same
        rcases Plan.mem_zeroCounters.mp fresh with ⟨-, rfl⟩ | ⟨-, rfl⟩
        · exact different same.symm
        · have stored : FeatureKey.storageMb = counter.feature := congrArg UsageKey.feature same
          rw [feature] at stored
          cases stored

theorem windows (done : Entered before after plan userId now start finish) :
    ∀ counter ∈ after.countersOf (.text userId) .aiCredits, counter.start.Zoned ∧ counter.finish.Zoned := by
  intro counter member
  rcases done.mem_countersOf.mp member with rfl | ⟨old, -⟩
  · exact ⟨done.starts, creditsClose_zoned done.ends now⟩
  · exact done.sound.windows counter old

/-- A counter that was active before stays so if it started after the cycle. -/
theorem active_of_rival (done : Entered before after plan userId now start finish) {rival : UsageCounter}
    (found : before.findActiveUsage (.text userId) .aiCredits (some now) = .ok (some rival))
    (later : start.before rival.start = .ok true) :
    after.findActiveUsage (.text userId) .aiCredits (some now) = .ok (some rival) := by
  obtain ⟨old, covers, last⟩ := (findActiveUsage_eq_some_iff done.sound.keyed done.zoned done.sound.windows).mp found
  obtain ⟨-, owner, about⟩ := (MemoryStore.mem_countersOf done.sound.keyed).mp old
  have starts := (done.sound.windows rival old).1
  rw [DateTime.before_of_zoned done.starts starts] at later
  injection later with later
  have later := of_decide_eq_true later
  have apart : rival.key ≠ (cycleCounter userId now start finish).key :=
    mt (key_eq_cycleCounter_iff owner about starts done.starts).mp (Int.ne_of_gt later)
  refine (findActiveUsage_eq_some_iff done.keyed done.zoned done.windows).mpr
    ⟨done.mem_countersOf.mpr (.inr ⟨old, apart⟩), covers, ?_⟩
  intro other there coversToo
  rcases done.mem_countersOf.mp there with rfl | ⟨there, -⟩
  · rw [cycleCounter_start]
    exact Int.le_of_lt later
  · exact last other there coversToo

/-- If it did not, or none was, the counter of the cycle is active. -/
theorem active_of_unrivalled (done : Entered before after plan userId now start finish)
    (covers : (cycleCounter userId now start finish).Covers now)
    (unrivalled : ∀ rival, before.findActiveUsage (.text userId) .aiCredits (some now) = .ok (some rival) →
      start.before rival.start ≠ .ok true) :
    after.findActiveUsage (.text userId) .aiCredits (some now) = .ok (some (cycleCounter userId now start finish)) := by
  refine (findActiveUsage_eq_some_iff done.keyed done.zoned done.windows).mpr
    ⟨done.mem_countersOf.mpr (.inl rfl), covers, ?_⟩
  intro other there coversToo
  rcases done.mem_countersOf.mp there with rfl | ⟨old, -⟩
  · exact Int.le_refl _
  · obtain ⟨found, searched, missing, newest⟩ := findActiveUsage_of_zoned done.zoned done.sound.windows
    cases found with
    | none => exact absurd coversToo (missing rfl other old)
    | some rival =>
      obtain ⟨member, -, latest⟩ := newest rival rfl
      have notLater := unrivalled rival searched
      rw [DateTime.before_of_zoned done.starts (done.sound.windows rival member).1, Ne, Except.ok.injEq,
        decide_eq_true_iff] at notLater
      have order := latest other old coversToo
      rw [cycleCounter_start]
      omega

theorem exists_active (done : Entered before after plan userId now start finish)
    (covers : (cycleCounter userId now start finish).Covers now) :
    ∃ active, after.findActiveUsage (.text userId) .aiCredits (some now) = .ok (some active) ∧
      (active.used = .whole 0 ↔
        ∀ rival, before.findActiveUsage (.text userId) .aiCredits (some now) = .ok (some rival) →
          start.before rival.start = .ok true → rival.used = .whole 0) := by
  by_cases rivalled : ∃ rival, before.findActiveUsage (.text userId) .aiCredits (some now) = .ok (some rival) ∧
      start.before rival.start = .ok true
  · obtain ⟨rival, found, later⟩ := rivalled
    refine ⟨rival, done.active_of_rival found later, fun unused other same _ => ?_, fun idle => idle rival found later⟩
    rw [found] at same
    cases same
    exact unused
  · refine ⟨_, done.active_of_unrivalled covers fun rival found later => rivalled ⟨rival, found, later⟩,
      fun _ rival found later => ?_, fun _ => rfl⟩
    exact absurd ⟨rival, found, later⟩ rivalled

end Entered

namespace MemoryStore

variable {store : MemoryStore} {now : DateTime} {userId : String} {entitlement : Entitlement} {counter : UsageCounter}
  (held : store.entitlements.get? userId = some entitlement)
include held

theorem info_of_found {found : Option UsageCounter} {used : Int}
    (searched : store.findActiveUsage (.text userId) .aiCredits (some now) = .ok found)
    (counted : Checkout.creditsUsed found = .ok used) :
    ∃ summary, store.info now (.text userId) = .ok summary ∧ summary.creditsUsed = used ∧
      summary.dailyCredits = store.dailyQuota? entitlement.planId := by
  unfold info
  simp only [atKey, held, searched, counted, bind, Except.bind]
  exact ⟨_, rfl, rfl, rfl⟩

variable (active : store.findActiveUsage (.text userId) .aiCredits (some now) = .ok (some counter))
include active

theorem info_of_active {used : Int} (whole : counter.used = .whole used) :
    ∃ summary, store.info now (.text userId) = .ok summary ∧ summary.creditsUsed = used := by
  have counted : Checkout.creditsUsed (some counter) = .ok used := by
    unfold Checkout.creditsUsed
    dsimp only
    rw [whole]
    rfl
  obtain ⟨summary, reported, shown, -⟩ := info_of_found held active counted
  exact ⟨summary, reported, shown⟩

theorem consume_of_active (lasting : entitlement.expiresAt.atMost now = .ok false)
    (member : store.usage.get? counter.key = some counter) (owner : counter.userId = userId)
    (feature : counter.feature = .aiCredits) (unused : counter.used = .whole 0) (keyed : store.Keyed) (amount : Int) :
    (∃ usage, (store.consume now (.text userId) (.whole amount)).1 = .ok usage) ↔
      0 < amount ∧ ∃ daily, store.dailyQuota? entitlement.planId = some daily ∧ amount ≤ daily := by
  have unexpired : store.unexpired (.text userId) now = .ok entitlement :=
    unexpired_eq_ok_iff.mpr ⟨⟨userId, rfl, held⟩, lasting⟩
  have today : store.todaysCounter now entitlement = (.ok counter, store) := by
    unfold todaysCounter
    rw [keyed.entitlements.name_eq held, active, proceed_ok]
  unfold consume
  by_cases positive : 0 < amount
  · have filled : (Amount.whole amount).atMost (.whole 0) = false := by
      simp [Amount.atMost, Amount.exceeds, positive]
    rw [filled, unexpired]
    simp only [Bool.false_eq_true, ↓reduceIte, proceed_ok, positive, true_and]
    cases planned : store.dailyQuota? entitlement.planId with
    | none => simp [quota, planned]
    | some daily =>
      simp only [quota, planned, proceed_ok, today, charge_whole member owner feature unused, Option.some.injEq,
        exists_eq_left', Int.zero_add]
      by_cases fits : amount ≤ daily <;> simp [fits]
  · have nothing : (Amount.whole amount).atMost (.whole 0) = true := by
      simp [Amount.atMost, Amount.exceeds, Amount.isNan, positive]
    simp [nothing, positive]

end MemoryStore

/-- A reset that is reported for a user on a plan with a daily quota, in the course of the cycle and of the day. -/
structure ReportedReset (service : Service) (around : Surroundings) (store : MemoryStore) (event : ReconcileEvent)
    (user : User) (plan : Plan) (quota : Int) (start : DateTime) : Prop where
  placed : service.At around store
  reached : store.Reachable
  universal : around.now.Universal
  reported : ∃ result, ((reconcile event).run service).1 = .ok result ∧ result.usageReset = true ∧
    result.user = some user ∧ result.plan = some plan
  metered : plan.dailyCredits = some quota
  period : ∃ details finish, around.details event = .ok details ∧ details.periodStart = some start ∧
    details.periodEnd = some finish ∧ around.now.before finish = .ok true
  begun : start.atMost around.now = .ok true
  early : around.now.before (.dayEnd around.now.date) = .ok true

namespace ReportedReset

variable {service : Service} {around : Surroundings} {store : MemoryStore} {event : ReconcileEvent} {user : User}
  {plan : Plan} {quota : Int} {start : DateTime}

theorem entered (reset : ReportedReset service around store event user plan quota start) :
    ∃ finish entitlement, Entered store (store.reconcile around event).2 plan user.id around.now start finish ∧
      (cycleCounter user.id around.now start finish).Covers around.now ∧
      (store.reconcile around event).2.entitlements.get? user.id = some entitlement ∧
      entitlement.expiresAt.atMost around.now = .ok false ∧ entitlement.planId = plan.id ∧
      (store.reconcile around event).2.plans = store.plans := by
  obtain ⟨result, succeeded, reported, about, bought⟩ := reset.reported
  obtain ⟨details, finish, known, begins, closes, lasting⟩ := reset.period
  have zoned := reset.universal.zoned
  have starts := DateTime.zoned_of_atMost zoned reset.begun
  have ends := DateTime.zoned_of_before zoned lasting
  have reconciled : store.reconcile around event = (.ok result, (store.reconcile around event).2) :=
    Prod.ext (((reconcile_evaluates event).run reset.placed).1.symm.trans succeeded) rfl
  obtain ⟨users, listed, resets, entitlement, expiry, planned, after⟩ :=
    MemoryStore.reconcile_of_dated_reset reconciled reported about bought known begins closes ends
  have keyed := reset.reached.sound.keyed.reconcile around event
  refine ⟨finish, entitlement, ⟨reset.reached.sound, keyed, ?_, ?_, zoned, starts, ends⟩, ?_, ?_, ?_, planned, ?_⟩
  · rw [reset.metered]
    rfl
  · rw [after]
  · have begun := reset.begun
    have early := reset.early
    rw [DateTime.atMost_of_zoned starts zoned] at begun
    rw [DateTime.before_of_zoned zoned ends] at lasting
    rw [DateTime.before_of_zoned zoned (DateTime.dayEnd_zoned _)] at early
    injection begun with begun
    injection lasting with lasting
    injection early with early
    exact cycleCounter_covers (of_decide_eq_true begun) (of_decide_eq_true lasting) (of_decide_eq_true early)
  · rw [after]
    exact OrderedMap.get?_insert_self _ _ _
  · rw [expiry]
    exact DateTime.atMost_of_before lasting
  · rw [after]

end ReportedReset

namespace Credits

/-- Whether a user's credits are as good as new: the active counter is at zero, the summary reports none as used,
and all of a quota can be spent. -/
structure AsNew (service : Service) (now : DateTime) (userId : String) (quota : Int) : Prop where
  active : ∃ counter, ((Action.findActiveUsage userId .aiCredits now).run service).1 = .ok (some counter) ∧
    counter.used = .whole 0
  reported : ∃ summary, ((Checkout.info (.text userId)).run service).1 = .ok summary ∧ summary.creditsUsed = 0
  spendable : ∃ usage, ((consume (.text userId) (.whole quota)).run service).1 = .ok usage

/-- A reset that is reported takes effect exactly if the counter that was active before did not start after the
cycle or has not been used. The quota can be spent if there is one, and if it is that of the plan that is found
by its id. -/
theorem reset_effective_iff {service : Service} {around : Surroundings} {store : MemoryStore} {event : ReconcileEvent}
    {user : User} {plan : Plan} {quota : Int} {start : DateTime}
    (reset : ReportedReset service around store event user plan quota start) :
    AsNew ((reconcile event).run service).2 around.now user.id quota ↔
      (∀ counter, store.findActiveUsage (.text user.id) .aiCredits (some around.now) = .ok (some counter) →
        start.before counter.start = .ok true → counter.used = .whole 0) ∧
      0 < quota ∧ ∃ daily, store.dailyQuota? plan.id = some daily ∧ quota ≤ daily := by
  obtain ⟨finish, entitlement, done, covers, held, lasting, planned, plans⟩ := reset.entered
  have placed := ((reconcile_evaluates event).run reset.placed).2
  have searched := ((Evaluates.perform (.findActiveUsage (.text user.id) .aiCredits (some around.now))).run placed).1
  have summed := ((Checkout.info_evaluates (.text user.id)).run placed).1
  have spent := ((consume_evaluates (.text user.id) (.whole quota)).run placed).1
  have listed : (store.reconcile around event).2.dailyQuota? entitlement.planId = store.dailyQuota? plan.id := by
    unfold MemoryStore.dailyQuota? MemoryStore.findPlan
    rw [plans, planned]
  obtain ⟨active, found, unused⟩ := done.exists_active covers
  obtain ⟨member, -⟩ := (MemoryStore.findActiveUsage_eq_some_iff done.keyed done.zoned done.windows).mp found
  obtain ⟨there, owner, feature⟩ := (MemoryStore.mem_countersOf done.keyed).mp member
  rw [← unused, ← listed]
  constructor
  · rintro ⟨⟨counter, here, zero⟩, -, spendable⟩
    have same : counter = active := by
      have both := here.symm.trans (searched.trans found)
      injection both with both
      injection both
    rw [same] at zero
    rw [spent] at spendable
    exact ⟨zero,
      (MemoryStore.consume_of_active held found lasting there owner feature zero done.keyed quota).mp spendable⟩
  · rintro ⟨zero, admitted⟩
    obtain ⟨summary, reported, none⟩ := MemoryStore.info_of_active held found zero
    refine ⟨⟨active, searched.trans found, zero⟩, ⟨summary, summed.trans reported, none⟩, ?_⟩
    rw [spent]
    exact (MemoryStore.consume_of_active held found lasting there owner feature zero done.keyed quota).mpr admitted

def midCycle (call : CreditCall) : MemoryStore :=
  ((Sample.store.reconcile Sample.around Sample.checkout).2.credit (Sample.march 4 43200) call).2

def changedShop (call : CreditCall) : Service :=
  Sample.service (Sample.march 4 43200) (midCycle call) (Sample.tables "sub_1" "active" "prod_studio")

def changedAround : Surroundings := (Sample.tables "sub_1" "active" "prod_studio").around (Sample.march 4 43200)

def planChange : ReconcileEvent := Sample.event .subscriptionUpdated "sub_1"

def afterChange (call : CreditCall) : Service := ((reconcile planChange).run (changedShop call)).2

def spending : CreditCall := .spend (.text "u1") (.whole 30)

theorem midCycle_reachable (call : CreditCall) : (midCycle call).Reachable :=
  ((((MemoryStore.Reachable.empty.addUser Sample.user).addPlan Sample.basic).addPlan Sample.studio).reconcile
    ⟨0, rfl⟩ Sample.checkout).credit (Sample.march 4 43200) call

theorem reportedReset_of_change {call : CreditCall}
    (reported : ((reconcile planChange).run (changedShop call)).1.toOption.map
      (fun result => (result.usageReset, result.user, result.plan)) = some (true, some Sample.user, some Sample.studio)) :
    ReportedReset (changedShop call) changedAround (midCycle call) planChange Sample.user Sample.studio 500
      (Sample.march 0 32400) where
  placed := Sample.service_at _ _ _
  reached := midCycle_reachable call
  universal := rfl
  reported := by
    obtain ⟨result, succeeded, same⟩ := Option.map_eq_some_iff.mp reported
    injection same with reset same
    injection same with about bought
    exact ⟨result, Outcome.eq_ok_of_toOption succeeded, reset, about, bought⟩
  metered := rfl
  period := by
    have stated : changedAround.subscription (.text "sub_1") = .ok (Sample.normal "sub_1" "active" "prod_studio") :=
      Outcome.eq_ok_of_toOption (by decide +kernel)
    have known := (@Surroundings.details_eq_ok_iff changedAround planChange rfl _).mpr ⟨_, _, stated, rfl, rfl⟩
    exact ⟨_, _, known, rfl, rfl, Outcome.eq_ok_of_toOption (by decide +kernel)⟩
  begun := Outcome.eq_ok_of_toOption (by decide +kernel)
  early := Outcome.eq_ok_of_toOption (by decide +kernel)

/-- A change of plan takes effect on a day on which nothing was spent yet. -/
theorem reset_effective_before_spend : AsNew (afterChange .openDay) (Sample.march 4 43200) "u1" 500 := by
  have unspent : ((midCycle .openDay).findActiveUsage (.text "u1") .aiCredits
      (some (Sample.march 4 43200))).toOption.map (·.map (·.used)) = some (some (.whole 0)) := by decide +kernel
  refine (reset_effective_iff (reportedReset_of_change (by decide +kernel))).mpr
    ⟨fun counter found _ => ?_, by decide, 500, by decide +kernel, Int.le_refl _⟩
  have known : (midCycle .openDay).findActiveUsage (.text "u1") .aiCredits (some (Sample.march 4 43200)) =
    .ok (some counter) := found
  rw [known] at unspent
  exact Option.some.inj (Option.some.inj unspent)

/-- Once something was spent on that day it is reported without effect: what was spent before still counts, and the
quota of the new plan cannot be spent. -/
theorem reset_without_effect_after_spend :
    ReportedReset (changedShop spending) changedAround (midCycle spending) planChange Sample.user Sample.studio 500
        (Sample.march 0 32400) ∧
      ¬ AsNew (afterChange spending) (Sample.march 4 43200) "u1" 500 ∧
      ((Checkout.info (.text "u1")).run (afterChange spending)).1.toOption.map (·.creditsUsed) = some 30 ∧
      ((consume (.text "u1") (.whole 500)).run (afterChange spending)).1.toOption = none := by
  have refused : ((consume (.text "u1") (.whole 500)).run (afterChange spending)).1.toOption = none := by decide +kernel
  refine ⟨reportedReset_of_change (by decide +kernel), fun asNew => ?_, by decide +kernel, refused⟩
  obtain ⟨usage, spent⟩ := asNew.spendable
  rw [spent] at refused
  cases refused

end Credits

end PaidAccess
