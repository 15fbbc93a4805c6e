import PaidAccess.Proofs.Credits.Day
import PaidAccess.Proofs.Reconciliation.Activation
import PaidAccess.Proofs.Service.Sample
/-!
The daily quota on the day of a first activation. What a day's spends come to stays within the quota as long
as all of them are charged to one counter. That depends on where in the day the paid period begins and ends
and on when it is activated, and `quota_kept_iff` says how.
-/

namespace PaidAccess

/-- A request in the course of a subscriber's day: to spend some credits, or to open the day's counters. -/
inductive DayCall where
  | spend (amount : Int)
  | openDay

namespace DayCall

def credit (userId : String) : DayCall → CreditCall
  | .spend amount => .spend (.text userId) (.whole amount)
  | .openDay => .openDay

def amount : DayCall → Int
  | .spend amount => amount
  | .openDay => 0

end DayCall

def OnDay (since : DateTime) : List (DateTime × DayCall) → Prop
  | [] => True
  | (time, _) :: rest =>
      time.Universal ∧ time.date = since.date ∧ since.instant ≤ time.instant ∧ OnDay time rest

def MemoryStore.creditsSpent (store : MemoryStore) (userId : String) : List (DateTime × DayCall) → Int
  | [] => 0
  | (time, call) :: rest =>
      let done := store.credit time (call.credit userId)
      (if done.1.isOk then call.amount else 0) + done.2.creditsSpent userId rest

def Service.creditsSpent (service : Service) (userId : String) : List (DateTime × DayCall) → Int
  | [] => 0
  | (time, call) :: rest =>
      let done := (call.credit userId).action.run { service with now := time }
      (if done.1.isOk then call.amount else 0) + done.2.creditsSpent userId rest

theorem Service.At.creditsSpent {service : Service} {around : Surroundings} {store : MemoryStore}
    (placed : service.At around store) (userId : String) (calls : List (DateTime × DayCall)) :
    service.creditsSpent userId calls = store.creditsSpent userId calls := by
  induction calls generalizing service around store with
  | nil => rfl
  | cons call rest ih =>
    obtain ⟨time, call⟩ := call
    obtain ⟨outcome, there⟩ := (CreditCall.evaluates (call.credit userId)).run (placed.wait time)
    unfold Service.creditsSpent MemoryStore.creditsSpent
    dsimp only
    rw [outcome, ih there]
    rfl

namespace QuotaDay

variable {day : QuotaDay} {store : MemoryStore} {now time : DateTime} {key : UsageKey}

theorem Within.later (within : day.Within now) (universal : time.Universal) (date : time.date = now.date)
    (order : now.instant ≤ time.instant) : day.Within time :=
  ⟨universal, date.trans within.date, Int.le_trans within.begun order⟩

theorem Running.step (running : day.Running store) (within : day.Within time) (call : DayCall) :
    day.Running (store.credit time (call.credit day.userId)).2 ∧
      ∀ key, (store.credit time (call.credit day.userId)).2.usedAt key = store.usedAt key +
        if (store.credit time (call.credit day.userId)).1.isOk = true ∧ key = day.charged store time
        then call.amount else 0 := by
  cases call with
  | spend amount =>
    obtain ⟨still, -, counted⟩ := consume_spec running within amount
    obtain ⟨succeeds, after⟩ := MemoryStore.credit_spend store time (.text day.userId) (.whole amount)
    rw [DayCall.credit, succeeds, after]
    exact ⟨still, counted⟩
  | openDay =>
    obtain ⟨still, same⟩ := running.resetDaily within.date
    rw [DayCall.credit, MemoryStore.credit_openDay]
    exact ⟨still, fun key => by simp [same key, DayCall.amount]⟩

variable (day) in
/-- Whether all spends that succeed from a time on are charged to the same counter. -/
def OneCounter (since : DateTime) (key : UsageKey) : Prop :=
  ∀ store time amount, day.Running store → day.Within time → since.instant ≤ time.instant →
    (store.consume time (.text day.userId) (.whole amount)).1.isOk = true → day.charged store time = key

theorem OneCounter.step {since : DateTime} (single : day.OneCounter since key) (running : day.Running store)
    (within : day.Within time) (order : since.instant ≤ time.instant) (room : store.usedAt key ≤ day.limit)
    (call : DayCall) :
    (store.credit time (call.credit day.userId)).2.usedAt key = store.usedAt key +
        (if (store.credit time (call.credit day.userId)).1.isOk = true then call.amount else 0) ∧
      (store.credit time (call.credit day.userId)).2.usedAt key ≤ day.limit := by
  obtain ⟨-, counted⟩ := running.step within call
  rw [counted key]
  cases call with
  | openDay => simp [DayCall.amount, room]
  | spend amount =>
    obtain ⟨-, succeeds, -⟩ := consume_spec running within amount
    have spends := single store time amount running within order
    rw [DayCall.credit, (MemoryStore.credit_spend store time (.text day.userId) (.whole amount)).1]
    by_cases succeeded : (store.consume time (.text day.userId) (.whole amount)).1.isOk = true
    · have fits := (succeeds.mp succeeded).2.2
      rw [spends succeeded] at fits ⊢
      simpa [succeeded, DayCall.amount] using fits
    · simp [succeeded, room]

theorem creditsSpent_le {since : DateTime} (single : day.OneCounter since key) (running : day.Running store)
    (within : day.Within now) (order : since.instant ≤ now.instant) (room : store.usedAt key ≤ day.limit)
    {calls : List (DateTime × DayCall)} (onDay : OnDay now calls) :
    store.creditsSpent day.userId calls ≤ day.limit - store.usedAt key := by
  induction calls generalizing store now with
  | nil =>
    unfold MemoryStore.creditsSpent
    omega
  | cons call rest ih =>
    obtain ⟨time, call⟩ := call
    obtain ⟨universal, date, next, later⟩ := onDay
    have here := within.later universal date next
    have since := Int.le_trans order next
    obtain ⟨spent, bounded⟩ := single.step running here since room call
    have others := ih (running.step here call).1 here since bounded later
    unfold MemoryStore.creditsSpent
    dsimp only
    omega

variable (day) in
/-- Whether one counter counts all credits of the day from a time on: there are none, the period begins at
midnight, it is the last microsecond of the day, or the period begins after midnight and ends with the day
at the latest. -/
def CountedOnce (now : DateTime) : Prop :=
  0 ≤ day.limit ∧ (day.limit = 0 ∨ day.start.instant = day.midnight ∨
    now.instant = (DateTime.dayEnd day.date).instant ∨
    (day.midnight < day.start.instant ∧ day.finish.instant ≤ (DateTime.dayEnd day.date).instant))

instance (now : DateTime) : Decidable (day.CountedOnce now) := inferInstanceAs (Decidable (_ ∧ _))

theorem CountedOnce.oneCounter (counted : day.CountedOnce now) :
    ∃ key, key.userId = day.userId ∧ day.OneCounter now key := by
  obtain ⟨-, nothing | same | last | ⟨later, ends⟩⟩ := counted
  · refine ⟨day.cycleKey, rfl, fun store time amount running within order succeeded => ?_⟩
    obtain ⟨positive, -, fits⟩ := (consume_spec running within amount).2.1.mp succeeded
    have counts := running.usedAt_nonneg (charged_user store time) (charged_feature store time)
    omega
  · refine ⟨day.cycleKey, rfl, fun store time amount running within order succeeded => ?_⟩
    unfold charged
    split
    next => rfl
    next => rw [midnightKey, cycleKey, same]
  · refine ⟨day.midnightKey, rfl, fun store time amount running within order succeeded => ?_⟩
    have closed : ¬ time.instant < day.close := by
      unfold close
      omega
    exact if_neg fun both => closed both.1
  · refine ⟨day.cycleKey, rfl, fun store time amount running within order succeeded => ?_⟩
    obtain ⟨-, lasting, -⟩ := (consume_spec running within amount).2.1.mp succeeded
    have inTime : time.instant < day.close := by
      unfold close
      omega
    exact if_pos ⟨inTime, .inl (Int.le_of_lt later)⟩

variable (day) in
/-- A store when the day's first request is made: nothing is used yet, and the only counter there is that of
the cycle. -/
structure Fresh (now : DateTime) (store : MemoryStore) : Prop where
  running : day.Running store
  within : day.Within now
  lasting : now.instant < day.finish.instant
  unused : ∀ key, key.userId = day.userId → store.usedAt key = 0
  alone : day.start.instant ≠ day.midnight → store.usage.get? day.midnightKey = none

theorem Fresh.creditsSpent_le (fresh : day.Fresh now store) (counted : day.CountedOnce now)
    {calls : List (DateTime × DayCall)} (onDay : OnDay now calls) : store.creditsSpent day.userId calls ≤ day.limit := by
  obtain ⟨key, user, single⟩ := counted.oneCounter
  have zero := fresh.unused key user
  have bounded := QuotaDay.creditsSpent_le single fresh.running fresh.within (Int.le_refl _)
    (by rw [zero]; exact counted.1) onDay
  rwa [zero, Int.sub_zero] at bounded

theorem spend_all (running : day.Running store) (within : day.Within time) (lasting : time.instant < day.finish.instant)
    (positive : 0 < day.limit) (unused : store.usedAt (day.charged store time) = 0) :
    (store.credit time ((DayCall.spend day.limit).credit day.userId)).1.isOk = true := by
  rw [DayCall.credit, (MemoryStore.credit_spend store time (.text day.userId) (.whole day.limit)).1]
  exact (consume_spec running within day.limit).2.1.mpr ⟨positive, lasting, by omega⟩

theorem midnightKey_ne (apart : day.start.instant ≠ day.midnight) : day.midnightKey ≠ day.cycleKey := by
  intro same
  injection same with _ _ same
  injection same with same
  exact apart same.symm

theorem Fresh.spend_all (fresh : day.Fresh now store) (positive : 0 < day.limit)
    (apart : day.start.instant ≠ day.midnight) (early : now.instant < (DateTime.dayEnd day.date).instant) :
    (store.credit now ((DayCall.spend day.limit).credit day.userId)).1.isOk = true ∧
      day.Running (store.credit now ((DayCall.spend day.limit).credit day.userId)).2 ∧
      (store.credit now ((DayCall.spend day.limit).credit day.userId)).2.usedAt day.midnightKey = 0 ∧
      (store.credit now ((DayCall.spend day.limit).credit day.userId)).2.entitlements = store.entitlements := by
  have inTime : now.instant < day.close := by
    have lasting := fresh.lasting
    unfold close
    omega
  have cycle : day.charged store now = day.cycleKey := if_pos ⟨inTime, .inr (fresh.alone apart)⟩
  obtain ⟨still, counted⟩ := fresh.running.step fresh.within (.spend day.limit)
  refine ⟨QuotaDay.spend_all fresh.running fresh.within fresh.lasting positive (fresh.unused _ (charged_user store now)),
    still, ?_, (MemoryStore.credit_counting fresh.running.keyed now _).onlyCounters.entitlements⟩
  rw [counted, cycle, if_neg fun both => midnightKey_ne apart both.2, fresh.unused _ rfl]
  rfl

/-- If the period began on an earlier day, the counter that the daily job opens at midnight is the newer one,
and all credits can be spent again. -/
theorem Fresh.overspends_opened (fresh : day.Fresh now store) (positive : 0 < day.limit)
    (earlier : day.start.instant < day.midnight) (early : now.instant < (DateTime.dayEnd day.date).instant)
    (zoned : store.Zoned) :
    day.limit < store.creditsSpent day.userId [(now, .spend day.limit), (now, .openDay), (now, .spend day.limit)] := by
  obtain ⟨first, still, unused, held⟩ := fresh.spend_all positive (by omega) early
  generalize after : (store.credit now ((DayCall.spend day.limit).credit day.userId)).2 = spent at still unused held
  obtain ⟨opened, same⟩ := still.resetDaily fresh.within.date
  have there := resetDaily_opens still fresh.within (zoned.of_entitlements held) fresh.lasting
  have midnight : day.charged (spent.resetDaily now).2 now = day.midnightKey := by
    refine if_neg fun both => ?_
    rcases both.2 with later | absent
    · omega
    · rw [absent] at there
      cases there
  have second := QuotaDay.spend_all opened fresh.within fresh.lasting positive (by rw [midnight, same, unused])
  simp only [MemoryStore.creditsSpent, first, after, DayCall.credit.eq_2, MemoryStore.credit_openDay, second, DayCall.amount,
    ↓reduceIte, ite_self]
  omega

/-- If the period goes on after the day, all credits can be spent again in the last microsecond of the day,
when the counters have closed. -/
theorem Fresh.overspends_last (fresh : day.Fresh now store) (positive : 0 < day.limit)
    (apart : day.start.instant ≠ day.midnight) (early : now.instant < (DateTime.dayEnd day.date).instant)
    (goesOn : (DateTime.dayEnd day.date).instant < day.finish.instant) :
    day.limit < store.creditsSpent day.userId
      [(now, .spend day.limit), (DateTime.dayEnd day.date, .spend day.limit)] := by
  obtain ⟨first, still, unused, -⟩ := fresh.spend_all positive apart early
  have last : day.Within (DateTime.dayEnd day.date) :=
    fresh.within.later rfl fresh.within.date.symm (Int.le_of_lt early)
  have closed : ¬ (DateTime.dayEnd day.date).instant < day.close := by
    unfold close
    omega
  have second := QuotaDay.spend_all still last goesOn positive
    (by rw [charged, if_neg fun both => closed both.1, unused])
  simp only [MemoryStore.creditsSpent, first, second, DayCall.amount, ↓reduceIte]
  omega

theorem Fresh.overspends (fresh : day.Fresh now store)
    (zoned : store.Zoned)
    (twice : ¬ day.CountedOnce now) : ∃ calls, OnDay now calls ∧ day.limit < store.creditsSpent day.userId calls := by
  have inTime : now.instant ≤ (DateTime.dayEnd day.date).instant := by
    rw [← fresh.within.date]
    exact fresh.within.universal.le_dayEnd
  have universal := fresh.within.universal
  unfold CountedOnce at twice
  rcases Int.lt_or_le day.limit 0 with negative | counts
  · exact ⟨[], trivial, negative⟩
  · by_cases goesOn : (DateTime.dayEnd day.date).instant < day.finish.instant
    · refine ⟨_, ?_, fresh.overspends_last (by omega) (by omega) (by omega) goesOn⟩
      exact ⟨universal, rfl, Int.le_refl _, rfl, fresh.within.date.symm, inTime, trivial⟩
    · refine ⟨_, ?_, fresh.overspends_opened (by omega) (by omega) (by omega) zoned⟩
      exact ⟨universal, rfl, Int.le_refl _, universal, rfl, Int.le_refl _, universal, rfl, Int.le_refl _, trivial⟩

section Entered

variable {before after : MemoryStore} {plan : Plan} (uncounted : before.Uncounted day.userId)
  (entered : after.usage = before.usage.enter UsageCounter.key
    (plan.zeroCounters day.userId day.start day.finish (creditsClose now day.finish)))
include uncounted entered

theorem mem_of_entered {counter : UsageCounter} (found : after.usage.get? key = some counter)
    (user : key.userId = day.userId) :
    counter ∈ plan.zeroCounters day.userId day.start day.finish (creditsClose now day.finish) ∧ counter.key = key := by
  rw [entered] at found
  rcases OrderedMap.mem_or_get?_of_enter found with fresh | old
  · exact fresh
  · exact absurd user (uncounted key (OrderedMap.mem_keys_of_get? old))

theorem usedAt_of_entered (user : key.userId = day.userId) : after.usedAt key = 0 := by
  cases found : after.usage.get? key with
  | none => exact MemoryStore.usedAt_of_absent found
  | some counter =>
    apply MemoryStore.usedAt_of_get? found
    rcases Plan.mem_zeroCounters.mp (mem_of_entered uncounted entered found user).1 with ⟨-, rfl⟩ | ⟨-, rfl⟩ <;> rfl

theorem cycle_of_entered (starts : day.start.Zoned) {counter : UsageCounter}
    (found : after.usage.get? key = some counter) (user : key.userId = day.userId) (feature : key.feature = .aiCredits) :
    key = day.cycleKey ∧ counter = ⟨day.userId, .aiCredits, .whole 0, day.start, creditsClose now day.finish⟩ := by
  obtain ⟨member, rfl⟩ := mem_of_entered uncounted entered found user
  rcases Plan.mem_zeroCounters.mp member with ⟨-, rfl⟩ | ⟨-, rfl⟩
  · exact ⟨day.key_of_start starts, rfl⟩
  · cases feature

theorem running_of_entered (keyed : after.Keyed) (quota : plan.dailyCredits = some day.limit)
    (entitled : ∃ entitlement, after.entitlements.get? day.userId = some entitlement ∧
      entitlement.expiresAt = day.finish ∧ after.dailyQuota? entitlement.planId = some day.limit)
    (starts : day.start.Zoned) (date : now.date = day.date) : day.Running after where
  keyed := keyed
  entitled := entitled
  cycle := by
    have there := OrderedMap.get?_enter_of_mem before.usage
      (plan.zeroCounters_distinct day.userId day.start day.finish (creditsClose now day.finish))
      (Plan.mem_zeroCounters.mpr (.inl ⟨by rw [quota]; rfl, rfl⟩))
    rw [← entered] at there
    rw [← day.key_of_start starts]
    exact Option.isSome_of_eq_some there
  counters := by
    intro key counter found user feature
    obtain ⟨named, rfl⟩ := cycle_of_entered uncounted entered starts found user feature
    exact ⟨.inl named, starts, creditsClose_zoned day.zoned now, day.close_eq now date, 0, Int.le_refl 0, rfl⟩

theorem fresh_of_entered (starts : day.start.Zoned) (running : day.Running after) (within : day.Within now)
    (lasting : now.instant < day.finish.instant) : day.Fresh now after where
  running := running
  within := within
  lasting := lasting
  unused := fun _ => usedAt_of_entered uncounted entered
  alone := by
    intro apart
    cases found : after.usage.get? day.midnightKey with
    | none => rfl
    | some counter => exact absurd (cycle_of_entered uncounted entered starts found rfl rfl).1 (midnightKey_ne apart)

end Entered

end QuotaDay

open Reconciliation

/-- A first activation within the paid period, on a plan with a daily quota. The user has had no access and no
counters before. -/
structure FirstActivation (service : Service) (around : Surroundings) (store : MemoryStore) (event : ReconcileEvent)
    (day : QuotaDay) : Prop where
  placed : service.At around store
  keyed : store.Keyed
  unentitled : store.entitlements.get? day.userId = none
  uncounted : store.Uncounted day.userId
  universal : around.now.Universal
  today : around.now.date = day.date
  period : ∃ details, around.details event = .ok details ∧ details.periodStart = some day.start ∧
    details.periodEnd = some day.finish
  begun : day.start.atMost around.now = .ok true
  lasting : around.now.before day.finish = .ok true
  activated : ∃ result user plan, ((reconcile event).run service).1 = .ok result ∧ result.usageReset = true ∧
    result.user = some user ∧ user.id = day.userId ∧ result.plan = some plan ∧
    plan.dailyCredits = some day.limit ∧ store.findPlan (.text plan.id) = some plan

namespace FirstActivation

variable {service : Service} {around : Surroundings} {store : MemoryStore} {event : ReconcileEvent} {day : QuotaDay}

theorem starts (first : FirstActivation service around store event day) : day.start.Zoned :=
  DateTime.zoned_of_atMost first.universal.zoned first.begun

theorem within (first : FirstActivation service around store event day) : day.Within around.now := by
  have begun := first.begun
  rw [DateTime.atMost_of_zoned first.starts first.universal.zoned] at begun
  injection begun with begun
  exact ⟨first.universal, first.today, of_decide_eq_true begun⟩

theorem lasts (first : FirstActivation service around store event day) :
    around.now.instant < day.finish.instant := by
  have lasting := first.lasting
  rw [DateTime.before_of_zoned first.universal.zoned day.zoned] at lasting
  injection lasting with lasting
  exact of_decide_eq_true lasting

theorem fresh (first : FirstActivation service around store event day) :
    day.Fresh around.now (store.reconcile around event).2 := by
  obtain ⟨result, user, plan, succeeded, reset, about, same, bought, quota, listed⟩ := first.activated
  have reconciled : store.reconcile around event = (.ok result, (store.reconcile around event).2) :=
    Prod.ext (((reconcile_evaluates event).run first.placed).1.symm.trans succeeded) rfl
  obtain ⟨details, known, begins, ends⟩ := first.period
  obtain ⟨users, recorded, resets, entitlement, expiry, planned, after⟩ :=
    MemoryStore.reconcile_of_dated_reset reconciled reset about bought known begins ends day.zoned
  have keyed := first.keyed.reconcile around event
  rw [after, same] at keyed ⊢
  refine QuotaDay.fresh_of_entered first.uncounted rfl first.starts
    (QuotaDay.running_of_entered first.uncounted rfl keyed quota ?_ first.starts first.today) first.within first.lasts
  refine ⟨entitlement, OrderedMap.get?_insert_self _ _ _, expiry, ?_⟩
  change (store.findPlan (.text entitlement.planId)).bind (·.dailyCredits) = some day.limit
  rw [planned, listed]
  exact quota

end FirstActivation

namespace Credits

/-- Whether no more credits are spent than the daily quota, whatever is requested on a day, from a time on and
in whatever order. -/
def QuotaKept (service : Service) (day : QuotaDay) (now : DateTime) : Prop :=
  ∀ calls, OnDay now calls → service.creditsSpent day.userId calls ≤ day.limit

/-- The quota is kept on the day of a first activation exactly if one counter counts all credits of the rest
of the day. Where two do, each of them can be spent to the limit. That the other expiries in the store have
zones is needed for the daily job, which fails for everybody if one of them has none. -/
theorem quota_kept_iff {service : Service} {around : Surroundings} {store : MemoryStore} {event : ReconcileEvent}
    {day : QuotaDay} (first : FirstActivation service around store event day) :
    (day.CountedOnce around.now → QuotaKept ((reconcile event).run service).2 day around.now) ∧
      (store.Zoned → QuotaKept ((reconcile event).run service).2 day around.now → day.CountedOnce around.now) := by
  have placed := ((reconcile_evaluates event).run first.placed).2
  constructor
  · intro once calls onDay
    rw [placed.creditsSpent]
    exact first.fresh.creditsSpent_le once onDay
  · intro zoned kept
    refine Decidable.byContradiction fun twice => ?_
    have still := zoned.reconcile first.universal.zoned event
    obtain ⟨calls, onDay, overspent⟩ := first.fresh.overspends still twice
    have bounded := kept calls onDay
    rw [placed.creditsSpent] at bounded
    omega

def checkoutDay (now : DateTime) : QuotaDay :=
  ⟨"u1", 50, Sample.march 0 32400, Sample.march 30 32400, now.date, 0, rfl⟩

def shopAt (now : DateTime) : Service := Sample.service now Sample.store (Sample.tables "sub_1" "active" "prod_basic")

theorem firstActivation_of_checkout (now : DateTime) (universal : now.Universal)
    (begun : (Sample.march 0 32400).atMost now = .ok true) (lasting : now.before (Sample.march 30 32400) = .ok true)
    (reported : ((reconcile Sample.checkout).run (shopAt now)).1.toOption.map
      (fun result => (result.usageReset, result.user.map (·.id), result.plan)) =
        some (true, some "u1", some Sample.basic)) :
    FirstActivation (shopAt now) (Sample.around.at now) Sample.store Sample.checkout (checkoutDay now) := by
  have stated : Sample.around.subscription (.ofText? Sample.checkout.subscriptionId) =
      .ok (Sample.normal "sub_1" "active" "prod_basic") := Outcome.eq_ok_of_toOption (by decide +kernel)
  have known := (@Surroundings.details_eq_ok_iff Sample.around Sample.checkout rfl _).mpr
    ⟨_, _, stated, rfl, rfl⟩
  refine ⟨Sample.service_at _ _ _, Sample.store_keyed, rfl, ?_, universal, rfl,
    ⟨_, (Sample.around.details_at rfl now).trans known, rfl, rfl⟩, begun, lasting, ?_⟩
  · intro key member
    cases member
  · cases succeeded : ((reconcile Sample.checkout).run (shopAt now)).1 with
    | error failure =>
      rw [succeeded] at reported
      cases reported
    | ok result =>
      rw [succeeded] at reported
      injection reported with reported
      injection reported with reset reported
      injection reported with about bought
      obtain ⟨user, found, named⟩ := Option.map_eq_some_iff.mp about
      exact ⟨result, user, Sample.basic, rfl, reset, found, named, bought, rfl, rfl⟩

/-- In the last microsecond of a day the quota is kept. -/
theorem quota_kept_of_last_moment :
    QuotaKept ((reconcile Sample.checkout).run (shopAt (.dayEnd (Sample.march 4 0).date))).2
      (checkoutDay (.dayEnd (Sample.march 4 0).date)) (.dayEnd (Sample.march 4 0).date) := by
  have first := firstActivation_of_checkout (.dayEnd (Sample.march 4 0).date) rfl
    (Outcome.eq_ok_of_toOption (by decide +kernel)) (Outcome.eq_ok_of_toOption (by decide +kernel)) (by decide +kernel)
  exact (quota_kept_iff first).1 (by decide +kernel)

def twice (now : DateTime) : List (DateTime × DayCall) := [(now, .spend 50), (now, .openDay), (now, .spend 50)]

/-- Right after midnight it is not, if the period began on the day before and the daily job runs between two
spends. -/
theorem quota_exceeded_after_midnight :
    FirstActivation (shopAt (Sample.march 1 5)) (Sample.around.at (Sample.march 1 5)) Sample.store Sample.checkout
        (checkoutDay (Sample.march 1 5)) ∧
      OnDay (Sample.march 1 5) (twice (Sample.march 1 5)) ∧
      ((reconcile Sample.checkout).run (shopAt (Sample.march 1 5))).2.creditsSpent "u1" (twice (Sample.march 1 5)) = 100 ∧
      ¬ QuotaKept ((reconcile Sample.checkout).run (shopAt (Sample.march 1 5))).2 (checkoutDay (Sample.march 1 5))
        (Sample.march 1 5) := by
  have universal : (Sample.march 1 5).Universal := rfl
  have onDay : OnDay (Sample.march 1 5) (twice (Sample.march 1 5)) := by
    simp [OnDay, twice, universal]
  have spent : ((reconcile Sample.checkout).run (shopAt (Sample.march 1 5))).2.creditsSpent "u1"
      (twice (Sample.march 1 5)) = 100 := by decide +kernel
  refine ⟨?_, onDay, spent, fun kept => ?_⟩
  · exact firstActivation_of_checkout _ rfl (Outcome.eq_ok_of_toOption (by decide +kernel))
      (Outcome.eq_ok_of_toOption (by decide +kernel)) (by decide +kernel)
  · have bounded : _ ≤ (50 : Int) := kept _ onDay
    change Service.creditsSpent _ "u1" _ ≤ 50 at bounded
    rw [spent] at bounded
    omega

end Credits

end PaidAccess
