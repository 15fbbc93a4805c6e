import PaidAccess.Proofs.Credits.FreshStart
/-!
Whether the summary shows what was spent. A spend is charged to the counter that is active, or else to the one of the
day, which opened at midnight and stays the day's counter when its window is over. The summary looks at the active
counter only. So it shows a spend exactly if the counter that was charged is open.
-/

namespace PaidAccess

namespace MemoryStore

def midnightKey (userId : String) (now : DateTime) : UsageKey :=
  ⟨userId, .aiCredits, (DateTime.dayStart now.date).moment⟩

def midnightCounter (entitlement : Entitlement) (now : DateTime) : UsageCounter :=
  ⟨entitlement.userId, .aiCredits, .whole 0, .dayStart now.date, creditsClose now entitlement.expiresAt⟩

theorem Keyed.listed_of_midnight {store : MemoryStore} (keyed : store.Keyed) {userId : String} {now : DateTime}
    {counter : UsageCounter} (there : store.usage.get? (midnightKey userId now) = some counter) :
    counter ∈ store.countersOf (.text userId) .aiCredits := by
  have named : counter.key = midnightKey userId now := keyed.usage.name_eq there
  rw [← named] at there
  exact (mem_countersOf keyed).mpr ⟨there, congrArg UsageKey.userId named, congrArg UsageKey.feature named⟩

/-- How today's counter of a subscriber is come by: one is active, or the day's own is there although its window is
over, or it opens now. -/
inductive Todays (store : MemoryStore) (now : DateTime) (entitlement : Entitlement) :
    UsageCounter → MemoryStore → Prop where
  | active {counter : UsageCounter}
      (found : store.findActiveUsage (.text entitlement.userId) .aiCredits (some now) = .ok (some counter)) :
      Todays store now entitlement counter store
  | closed {counter : UsageCounter}
      (idle : store.findActiveUsage (.text entitlement.userId) .aiCredits (some now) = .ok none)
      (there : store.usage.get? (midnightKey entitlement.userId now) = some counter) :
      Todays store now entitlement counter store
  | opened (idle : store.findActiveUsage (.text entitlement.userId) .aiCredits (some now) = .ok none)
      (absent : store.usage.get? (midnightKey entitlement.userId now) = none) :
      Todays store now entitlement (midnightCounter entitlement now)
        (store.addCounter (midnightCounter entitlement now))

/-- Whether a spend of a user is charged to an open counter: one is active, or the day's own opens with the spend, for
which it must not be the last moment of the day. -/
def Open (store : MemoryStore) (userId : String) (now : DateTime) : Prop :=
  (∃ counter, store.findActiveUsage (.text userId) .aiCredits (some now) = .ok (some counter)) ∨
    store.usage.get? (midnightKey userId now) = none ∧ now.before (.dayEnd now.date) = .ok true

/-- Whether no other counter of a user comes before this one: if any is open, this one is, and started last. -/
structure Foremost (store : MemoryStore) (now : DateTime) (userId : String) (counter : UsageCounter) : Prop where
  listed : counter ∈ store.countersOf (.text userId) .aiCredits
  latest : ∀ other ∈ store.countersOf (.text userId) .aiCredits, other.Covers now →
    counter.Covers now ∧ other.start.instant ≤ counter.start.instant

variable {store after : MemoryStore} {now : DateTime} {userId : String} {entitlement : Entitlement}
  {counter : UsageCounter}

theorem todays_of_todaysCounter (zoned : entitlement.expiresAt.Zoned)
    (come : store.todaysCounter now entitlement = (.ok counter, after)) :
    Todays store now entitlement counter after := by
  unfold todaysCounter at come
  rcases searched : store.findActiveUsage (.text entitlement.userId) .aiCredits (some now) with failure | _ | found
  · rw [searched] at come
    cases come
  · rw [searched, proceed_ok] at come
    unfold openToday at come
    dsimp only at come
    rw [dailyWindow_of_zoned zoned, proceed_ok, openCounter_text] at come
    cases there : store.usage.get? (midnightKey entitlement.userId now) with
    | none =>
      simp only [midnightKey] at there
      simp only [there] at come
      cases come
      exact .opened searched there
    | some found =>
      simp only [midnightKey] at there
      simp only [there] at come
      cases come
      exact .closed searched there
  · rw [searched, proceed_ok] at come
    cases come
    exact .active searched

theorem Foremost.findActiveUsage (foremost : store.Foremost now userId counter) (sound : store.Sound)
    (zoned : now.Zoned) :
    store.findActiveUsage (.text userId) .aiCredits (some now) =
      .ok (if counter.Covers now then some counter else none) := by
  by_cases covers : counter.Covers now
  · rw [if_pos covers]
    exact (findActiveUsage_eq_some_iff sound.keyed zoned sound.windows).mpr
      ⟨foremost.listed, covers, fun other member also => (foremost.latest other member also).2⟩
  · rw [if_neg covers]
    have windows : ∀ counter ∈ store.countersOf (.text userId) .aiCredits, counter.start.Zoned ∧ counter.finish.Zoned :=
      sound.windows
    obtain ⟨found, searched, -, newest⟩ := findActiveUsage_of_zoned zoned windows
    cases found with
    | none => exact searched
    | some other =>
      obtain ⟨member, also, -⟩ := newest other rfl
      exact absurd (foremost.latest other member also).1 covers

theorem Foremost.spent (foremost : store.Foremost now userId counter) (keyed : store.Keyed) (used : Amount) :
    { store with usage := store.usage.insert counter.key { counter with used := used } }.Foremost now userId
      { counter with used := used } := by
  obtain ⟨there, owner, feature⟩ := (mem_countersOf keyed).mp foremost.listed
  have after : { store with usage := store.usage.insert counter.key { counter with used := used } }.Keyed :=
    keyed.replaceCounter there rfl
  refine ⟨(mem_countersOf after).mpr ⟨OrderedMap.get?_insert_self _ _ _, owner, feature⟩, fun other member covers => ?_⟩
  obtain ⟨found, user, about⟩ := (mem_countersOf after).mp member
  dsimp only at found
  rw [OrderedMap.get?_insert] at found
  split at found
  next =>
    cases found
    exact ⟨covers, Int.le_refl _⟩
  next => exact foremost.latest other ((mem_countersOf keyed).mpr ⟨found, user, about⟩) covers

namespace Todays

variable (todays : Todays store now entitlement counter after) (sound : store.Sound) (universal : now.Universal)
include todays sound universal

theorem foremost (keyed : after.Keyed) : after.Foremost now entitlement.userId counter := by
  cases todays with
  | active found =>
    obtain ⟨listed, covers, latest⟩ := (findActiveUsage_eq_some_iff keyed universal.zoned sound.windows).mp found
    exact ⟨listed, fun other member also => ⟨covers, latest other member also⟩⟩
  | closed idle there =>
    refine ⟨sound.keyed.listed_of_midnight there, fun other member covers => ?_⟩
    exact absurd covers (not_covers_of_idle universal.zoned sound.windows idle other member)
  | opened idle absent =>
    refine ⟨(mem_countersOf keyed).mpr ⟨OrderedMap.get?_insert_self _ _ _, rfl, rfl⟩, fun other member covers => ?_⟩
    obtain ⟨found, user, about⟩ := (mem_countersOf keyed).mp member
    change (store.usage.insert _ _).get? other.key = some other at found
    rw [OrderedMap.get?_insert] at found
    split at found
    next =>
      cases found
      exact ⟨covers, Int.le_refl _⟩
    next =>
      have old := (mem_countersOf sound.keyed).mpr ⟨found, user, about⟩
      exact absurd covers (not_covers_of_idle universal.zoned sound.windows idle other old)

theorem begun : counter.start.instant ≤ now.instant := by
  cases todays with
  | active found => exact ((findActiveUsage_eq_some_iff sound.keyed universal.zoned sound.windows).mp found).2.1.1
  | closed idle there =>
    have named : counter.key = midnightKey entitlement.userId now := sound.keyed.usage.name_eq there
    have starts := (sound.windows counter (sound.keyed.listed_of_midnight there)).1
    have midnight : counter.start.moment = (DateTime.dayStart now.date).moment := congrArg UsageKey.start named
    rw [starts.moment, (DateTime.dayStart_zoned now.date).moment, Moment.instant.injEq] at midnight
    rw [midnight]
    exact universal.dayStart_le
  | opened idle absent => exact universal.dayStart_le

theorem covers_iff (lasting : entitlement.expiresAt.atMost now = .ok false) :
    counter.Covers now ↔ store.Open entitlement.userId now := by
  unfold Open
  cases todays with
  | active found =>
    obtain ⟨-, covers, -⟩ := (findActiveUsage_eq_some_iff sound.keyed universal.zoned sound.windows).mp found
    exact iff_of_true covers (.inl ⟨counter, found⟩)
  | closed idle there =>
    have listed := sound.keyed.listed_of_midnight there
    refine iff_of_false (not_covers_of_idle universal.zoned sound.windows idle counter listed) ?_
    rw [idle, there]
    rintro (⟨_, ⟨⟩⟩ | ⟨⟨⟩, _⟩)
  | opened idle absent =>
    have begun := universal.dayStart_le
    rw [DateTime.atMost_of_zoned (DateTime.zoned_of_atMost universal.zoned lasting) universal.zoned, Except.ok.injEq,
      decide_eq_false_iff_not, Int.not_le] at lasting
    rw [idle, absent, DateTime.before_of_zoned universal.zoned (DateTime.dayEnd_zoned now.date)]
    simp only [UsageCounter.Covers, midnightCounter, creditsClose, Except.ok.injEq, reduceCtorEq, exists_false,
      true_and, false_or, decide_eq_true_eq, begun]
    -- the window is cut off by the expiry only before the day ends, and the expiry lies ahead
    split <;> omega

end Todays

theorem exists_used_of_spentFrom {updated : UsageCounter} {amount limit : Amount}
    (spent : spentFrom counter amount limit = .ok (some updated)) :
    ∃ used, updated = { counter with used := used } := by
  unfold spentFrom at spent
  split at spent
  next room used _ _ =>
    split at spent
    next => cases spent
    next =>
      cases spent
      exact ⟨used, rfl⟩
  next => cases spent

theorem spend_of_get? {key : UsageKey} (there : store.usage.get? key = some counter) (amount : Amount) (limit : Int) :
    store.spend key amount.toValue (.int limit) =
      match spentFrom counter amount (.whole limit) with
      | .ok (some updated) => (.ok (some updated), { store with usage := store.usage.insert key updated })
      | outcome => (outcome, store) := by
  unfold spend
  rw [there]
  cases amount <;> rfl

theorem exists_used_of_charge {amount : Amount} {limit : Int} {usage : CreditUsage}
    (there : store.usage.get? counter.key = some counter) (owner : counter.userId = userId)
    (feature : counter.feature = .aiCredits)
    (charged : store.charge now (.text userId) amount limit counter = (.ok usage, after)) :
    ∃ used, after = { store with usage := store.usage.insert counter.key { counter with used := used } } ∧
      Credits.report limit { counter with used := used } = .ok usage := by
  have named : (⟨userId, .aiCredits, counter.start.moment⟩ : UsageKey) = counter.key := by
    rw [← owner, ← feature]
    rfl
  unfold charge apply at charged
  simp only [keyOf, atKey, Option.map_some, named, spend_of_get? there] at charged
  rcases spent : spentFrom counter amount (.whole limit) with failure | _ | updated
  · rw [spent] at charged
    cases charged
  · rw [spent] at charged
    cases charged
  · obtain ⟨used, rfl⟩ := exists_used_of_spentFrom spent
    rw [spent, proceed_ok] at charged
    injection charged with reported left
    exact ⟨used, left.symm, reported⟩

theorem consume_eq_ok {amount : Amount} {usage : CreditUsage}
    (spent : (store.consume now (.text userId) amount).1 = .ok usage) :
    ∃ entitlement limit counter opened,
      store.entitlements.get? userId = some entitlement ∧ entitlement.expiresAt.atMost now = .ok false ∧
        store.dailyQuota? entitlement.planId = some limit ∧
        store.todaysCounter now entitlement = (.ok counter, opened) ∧
        opened.charge now (.text userId) amount limit counter =
          (.ok usage, (store.consume now (.text userId) amount).2) := by
  unfold consume at spent ⊢
  split at spent
  next => cases spent
  next positive =>
    rw [if_neg positive]
    cases found : store.unexpired (.text userId) now with
    | error failure =>
      rw [found] at spent
      cases spent
    | ok entitlement =>
      obtain ⟨⟨_, ⟨⟩, held⟩, lasting⟩ := unexpired_eq_ok_iff.mp found
      rw [found, proceed_ok] at spent
      cases planned : store.dailyQuota? entitlement.planId with
      | none =>
        simp only [quota, planned] at spent
        cases spent
      | some limit =>
        simp only [quota, planned, proceed_ok] at spent ⊢
        rcases come : store.todaysCounter now entitlement with ⟨failure | counter, opened⟩
        · rw [come] at spent
          cases spent
        · rw [come] at spent
          exact ⟨entitlement, limit, counter, opened, held, lasting, planned, come, Prod.ext spent rfl⟩

end MemoryStore

namespace Credits

theorem of_report {limit : Int} {counter : UsageCounter} {usage : CreditUsage}
    (reported : report limit counter = .ok usage) :
    Checkout.creditsUsed (some counter) = .ok usage.used ∧ usage.dailyLimit = limit ∧
      usage.windowEndsAt = counter.finish := by
  unfold report CreditUsage.ofAmounts at reported
  split at reported
  next remaining _ =>
    unfold Checkout.creditsUsed
    dsimp only
    cases counted : Lenient.integer counter.used.toValue with
    | faulty issues =>
      rw [counted] at reported
      cases left : Lenient.integer remaining.toValue <;> rw [left] at reported <;> cases reported
    | valid used =>
      rw [counted] at reported
      cases left : Lenient.integer remaining.toValue with
      | faulty issues =>
        rw [left] at reported
        cases reported
      | valid remaining =>
        rw [left] at reported
        cases reported
        exact ⟨rfl, rfl, rfl⟩
  next => cases reported

end Credits

theorem MemoryStore.info_of_consume {store : MemoryStore} {now : DateTime} {userId : String} {amount : Amount}
    {usage : CreditUsage} (reached : store.Reachable) (universal : now.Universal)
    (spent : (store.consume now (.text userId) amount).1 = .ok usage) :
    (store.Open userId now ↔ now.before usage.windowEndsAt = .ok true) ∧
    ∃ summary, (store.consume now (.text userId) amount).2.info now (.text userId) = .ok summary ∧
      summary.dailyCredits = some usage.dailyLimit ∧
      (store.Open userId now → summary.creditsUsed = usage.used) ∧
      (¬ store.Open userId now → summary.creditsUsed = 0) := by
  obtain ⟨entitlement, limit, counter, opened, held, lasting, planned, come, charged⟩ := consume_eq_ok spent
  have sound := reached.sound
  have owner : entitlement.userId = userId := sound.keyed.entitlements.name_eq held
  subst owner
  have todays := todays_of_todaysCounter (sound.zoned _ entitlement held) come
  have counting : Counting store opened := by
    have counting : Counting store (store.todaysCounter now entitlement).2 := todaysCounter_counting (by rw [held]; rfl)
    rw [come] at counting
    exact counting
  have keyed := counting.keyed sound.keyed
  have foremost := todays.foremost sound universal keyed
  obtain ⟨there, owner, feature⟩ := (mem_countersOf keyed).mp foremost.listed
  obtain ⟨used, left, reported⟩ := exists_used_of_charge there owner feature charged
  obtain ⟨shown, limited, closes⟩ := Credits.of_report reported
  have spent := foremost.spent keyed used
  rw [← left] at spent
  have after := (reached.consume now (.text entitlement.userId) amount).sound
  have searched := spent.findActiveUsage after universal.zoned
  have ends := (after.windows _ spent.listed).2
  have open_iff := todays.covers_iff sound universal lasting
  have only := (consume_counting sound.keyed now (.text entitlement.userId) amount).onlyCounters
  have quota : (store.consume now (.text entitlement.userId) amount).2.dailyQuota? entitlement.planId =
      some usage.dailyLimit := by
    unfold dailyQuota? findPlan
    rw [only.plans, limited]
    exact planned
  rw [← only.entitlements] at held
  constructor
  · rw [← open_iff, closes, DateTime.before_of_zoned universal.zoned ends, Except.ok.injEq, decide_eq_true_iff]
    exact and_iff_right (todays.begun sound universal)
  · by_cases covers : counter.Covers now
    · rw [if_pos (show UsageCounter.Covers { counter with used := used } now from covers)] at searched
      obtain ⟨summary, informed, shows, limits⟩ := info_of_found held searched shown
      exact ⟨summary, informed, limits.trans quota, fun _ => shows, fun shut => absurd (open_iff.mp covers) shut⟩
    · rw [if_neg (show ¬ UsageCounter.Covers { counter with used := used } now from covers)] at searched
      obtain ⟨summary, informed, shows, limits⟩ := info_of_found held searched rfl
      exact ⟨summary, informed, limits.trans quota, fun opens => absurd (open_iff.mpr opens) covers, fun _ => shows⟩

namespace Credits

/-- After a spend the summary shows the daily limit that the spend was held to, and as used what the spend reported if
it was charged to an open counter. Otherwise it shows nothing as used. -/
theorem summary_agrees_iff {service : Service} {around : Surroundings} {store : MemoryStore}
    (placed : service.At around store) (reached : store.Reachable) (universal : around.now.Universal) {userId : String}
    {amount : Amount} {usage : CreditUsage}
    (spent : ((consume (.text userId) amount).run service).1 = .ok usage) :
    (store.Open userId around.now ↔ around.now.before usage.windowEndsAt = .ok true) ∧
    ∃ summary, ((Checkout.info (.text userId)).run ((consume (.text userId) amount).run service).2).1 = .ok summary ∧
      summary.dailyCredits = some usage.dailyLimit ∧
      (summary.creditsUsed = usage.used ↔ store.Open userId around.now ∨ usage.used = 0) ∧
      (¬ store.Open userId around.now → summary.creditsUsed = 0) := by
  obtain ⟨outcome, after⟩ := (consume_evaluates (.text userId) amount).run placed
  rw [outcome] at spent
  obtain ⟨closing, summary, informed, limit, shown, silent⟩ := MemoryStore.info_of_consume reached universal spent
  refine ⟨closing, summary, ((Checkout.info_evaluates (.text userId)).run after).1.trans informed, limit, ?_, silent⟩
  by_cases opens : store.Open userId around.now
  · exact iff_of_true (shown opens) (.inl opens)
  · rw [silent opens, eq_comm]
    exact (or_iff_right opens).symm

def basicShop (store : MemoryStore) (time : DateTime) : Service :=
  Sample.service time store (Sample.tables "sub_1" "active" "prod_basic")

/-- What is spent at noon shows in the summary. -/
theorem summary_agrees_at_noon :
    ∃ usage summary,
      ((consume (.text "u1") (.whole 30)).run (basicShop (midCycle .openDay) (Sample.march 4 43200))).1 = .ok usage ∧
      ((Checkout.info (.text "u1")).run
          ((consume (.text "u1") (.whole 30)).run (basicShop (midCycle .openDay) (Sample.march 4 43200))).2).1 =
        .ok summary ∧
      summary.creditsUsed = usage.used ∧ summary.dailyCredits = some usage.dailyLimit := by
  have reported : ((consume (.text "u1") (.whole 30)).run
      (basicShop (midCycle .openDay) (Sample.march 4 43200))).1.toOption =
        some ⟨30, 50, 20, .dayEnd (Sample.march 4 43200).date⟩ := by decide +kernel
  have spent := Outcome.eq_ok_of_toOption reported
  have placed : (basicShop (midCycle .openDay) (Sample.march 4 43200)).At
      ((Sample.tables "sub_1" "active" "prod_basic").around (Sample.march 4 43200)) (midCycle .openDay) :=
    Sample.service_at _ _ _
  obtain ⟨opens, summary, informed, limit, agrees, -⟩ :=
    summary_agrees_iff placed (midCycle_reachable .openDay) rfl spent
  have early : (Sample.march 4 43200).before (.dayEnd (Sample.march 4 43200).date) = .ok true :=
    Outcome.eq_ok_of_toOption (by decide +kernel)
  exact ⟨_, summary, spent, informed, agrees.mpr (.inl (opens.mpr early)), limit⟩

def lastMoment : DateTime := DateTime.dayEnd (Sample.march 4 0).date

def endingAtNoon : ProviderTables :=
  { ProviderTables.empty with
    subscriptions := .ofList [("sub_1", .record [("id", .text "sub_1"), ("customer", .text "cus_1"),
      ("status", .text "active"), ("current_period_start", Sample.stamp 0 32400),
      ("current_period_end", Sample.stamp 4 43200),
      ("items", .record [("data", .list [.record [("price",
        .record [("id", .text "price_1"), ("product", .text "prod_basic")])]])])])] }

/-- The store when the subscription was to end at noon, three credits were spent that morning, and its period was then
extended to the end of the month. -/
def extended : MemoryStore :=
  (((Sample.store.reconcile (endingAtNoon.around (Sample.march 0 36000)) Sample.checkout).2.credit
      (Sample.march 4 36000) (.spend (.text "u1") (.whole 3))).2.reconcile
    ((Sample.tables "sub_1" "active" "prod_basic").around (Sample.march 4 39600))
    (Sample.event .subscriptionUpdated "sub_1")).2

theorem extended_reachable : extended.Reachable :=
  (((((MemoryStore.Reachable.empty.addUser Sample.user).addPlan Sample.basic).addPlan Sample.studio).reconcile
    ⟨0, rfl⟩ Sample.checkout).credit (Sample.march 4 36000) (.spend (.text "u1") (.whole 3))).reconcile ⟨0, rfl⟩ _

/-- What is spent does not show if it is spent in the last moment of the day, nor if the window of the day's counter
closed with a period that was extended later. -/
theorem summary_misses_spend :
    (midCycle .openDay).Reachable ∧ extended.Reachable ∧
      ((consume (.text "u1") (.whole 5)).run (basicShop (midCycle .openDay) lastMoment)).1.toOption.map (·.used) = some 5 ∧
      ((Checkout.info (.text "u1")).run ((consume (.text "u1") (.whole 5)).run
        (basicShop (midCycle .openDay) lastMoment)).2).1.toOption.map (·.creditsUsed) = some 0 ∧
      ((consume (.text "u1") (.whole 4)).run (basicShop extended (Sample.march 4 46800))).1.toOption.map (·.used) =
        some 7 ∧
      ((Checkout.info (.text "u1")).run ((consume (.text "u1") (.whole 4)).run
        (basicShop extended (Sample.march 4 46800))).2).1.toOption.map (·.creditsUsed) = some 0 := by
  refine ⟨midCycle_reachable _, extended_reachable, ?_, ?_, ?_, ?_⟩ <;> decide +kernel

end Credits

end PaidAccess
