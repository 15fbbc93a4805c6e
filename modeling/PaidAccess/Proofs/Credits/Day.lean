import PaidAccess.Proofs.Credits.Effect
import PaidAccess.Proofs.Usage.Windows
/-!
One day of one subscriber. The day's credits are counted by the counter of the cycle, which started with the
paid period, and by the counter that opens at midnight. Both close at the same time, so which of the two is
charged depends on whether they are still open, and if so on which of them started last.
-/

namespace PaidAccess

def MemoryStore.usedAt (store : MemoryStore) (key : UsageKey) : Int :=
  match store.usage.get? key with
  | some ⟨_, _, .whole used, _, _⟩ => used
  | _ => 0

namespace MemoryStore

variable {store : MemoryStore}

theorem usedAt_of_get? {key : UsageKey} {counter : UsageCounter} {used : Int}
    (found : store.usage.get? key = some counter) (whole : counter.used = .whole used) : store.usedAt key = used := by
  obtain ⟨userId, feature, amount, start, finish⟩ := counter
  subst whole
  simp only [usedAt, found]

theorem usedAt_of_absent {key : UsageKey} (absent : store.usage.get? key = none) : store.usedAt key = 0 := by
  simp only [usedAt, absent]

theorem usedAt_addCounter {counter : UsageCounter} (absent : store.usage.get? counter.key = none)
    (zero : counter.used = .whole 0) (key : UsageKey) : (store.addCounter counter).usedAt key = store.usedAt key := by
  by_cases same : key = counter.key
  · subst same
    rw [usedAt_of_absent absent]
    exact usedAt_of_get? (OrderedMap.get?_insert_self _ _ _) zero
  · unfold usedAt addCounter
    rw [OrderedMap.get?_insert_of_ne _ _ same]

theorem usedAt_replace (store : MemoryStore) (counter : UsageCounter) (used : Int) (key : UsageKey) :
    { store with usage := store.usage.insert counter.key { counter with used := .whole used } }.usedAt key =
      if key = counter.key then used else store.usedAt key := by
  split
  next same =>
    subst same
    exact usedAt_of_get? (OrderedMap.get?_insert_self _ _ _) rfl
  next different =>
    unfold usedAt
    dsimp only
    rw [OrderedMap.get?_insert_of_ne _ _ different]

end MemoryStore

/-- A day within the paid period of a subscriber: the daily limit and the period, which ends at a zoned
time. -/
structure QuotaDay where
  userId : String
  limit : Int
  start : DateTime
  finish : DateTime
  date : Date
  zoned : finish.Zoned

namespace QuotaDay

variable (day : QuotaDay)

def midnight : Int := (DateTime.dayStart day.date).instant

def close : Int := min day.finish.instant (DateTime.dayEnd day.date).instant

def cycleKey : UsageKey := ⟨day.userId, .aiCredits, .instant day.start.instant⟩

def midnightKey : UsageKey := ⟨day.userId, .aiCredits, .instant day.midnight⟩

def opened : UsageCounter :=
  ⟨day.userId, .aiCredits, .whole 0, .dayStart day.date, creditsClose (.dayStart day.date) day.finish⟩

/-- The counter that a spend is charged to: the open one that started last, and the one that opens at
midnight when none is open. -/
def charged (store : MemoryStore) (time : DateTime) : UsageKey :=
  if time.instant < day.close ∧ (day.midnight ≤ day.start.instant ∨ store.usage.get? day.midnightKey = none) then
    day.cycleKey
  else day.midnightKey

structure Counter (counter : UsageCounter) : Prop where
  starts : counter.start.Zoned
  ends : counter.finish.Zoned
  closes : counter.finish.instant = day.close
  whole : ∃ used : Int, 0 ≤ used ∧ counter.used = .whole used

/-- A store in the course of the day: the subscriber is entitled, the counter of the cycle is there, and no
other credits are counted than those of the day. -/
structure Running (store : MemoryStore) : Prop where
  keyed : store.Keyed
  entitled : ∃ entitlement, store.entitlements.get? day.userId = some entitlement ∧
    entitlement.expiresAt = day.finish ∧ store.dailyQuota? entitlement.planId = some day.limit
  cycle : (store.usage.get? day.cycleKey).isSome
  counters : ∀ key counter, store.usage.get? key = some counter → key.userId = day.userId →
    key.feature = .aiCredits → (key = day.cycleKey ∨ key = day.midnightKey) ∧ day.Counter counter

structure Within (time : DateTime) : Prop where
  universal : time.Universal
  date : time.date = day.date
  begun : day.start.instant ≤ time.instant

theorem close_eq (now : DateTime) (date : now.date = day.date) :
    (creditsClose now day.finish).instant = day.close := by
  unfold creditsClose close
  rw [date]
  split <;> omega

theorem key_of_start (starts : day.start.Zoned) :
    (⟨day.userId, .aiCredits, day.start.moment⟩ : UsageKey) = day.cycleKey := by
  rw [starts.moment]
  rfl

theorem opened_key : day.opened.key = day.midnightKey := by
  unfold UsageCounter.key opened midnightKey midnight
  rw [(DateTime.dayStart_zoned day.date).moment]

theorem opened_counter : day.Counter day.opened where
  starts := DateTime.dayStart_zoned day.date
  ends := creditsClose_zoned day.zoned _
  closes := day.close_eq (.dayStart day.date) rfl
  whole := ⟨0, Int.le_refl 0, rfl⟩

variable {day} {store : MemoryStore} {time : DateTime}

theorem charged_user (store : MemoryStore) (time : DateTime) : (day.charged store time).userId = day.userId := by
  unfold charged
  split <;> rfl

theorem charged_feature (store : MemoryStore) (time : DateTime) : (day.charged store time).feature = .aiCredits := by
  unfold charged
  split <;> rfl

theorem Within.midnight_le (within : day.Within time) : day.midnight ≤ time.instant := by
  unfold midnight
  rw [← within.date]
  exact within.universal.dayStart_le

theorem Counter.instant_of_key {counter : UsageCounter} (known : day.Counter counter) {start : Int}
    (named : counter.key = ⟨day.userId, .aiCredits, .instant start⟩) : counter.start.instant = start := by
  have same : counter.start.moment = .instant start := congrArg UsageKey.start named
  rw [known.starts.moment] at same
  injection same

theorem Running.covers_iff (running : day.Running store) (within : day.Within time) {counter : UsageCounter}
    (member : counter ∈ store.countersOf (.text day.userId) .aiCredits) :
    counter.Covers time ↔ time.instant < day.close := by
  obtain ⟨found, user, feature⟩ := (MemoryStore.mem_countersOf running.keyed).mp member
  obtain ⟨name, known⟩ := running.counters _ _ found user feature
  have begun : counter.start.instant ≤ time.instant := by
    rcases name with cycle | midnight
    · rw [known.instant_of_key cycle]
      exact within.begun
    · rw [known.instant_of_key midnight]
      exact within.midnight_le
  unfold UsageCounter.Covers
  rw [known.closes]
  exact and_iff_right begun

variable (day) in
def ready (store : MemoryStore) : MemoryStore :=
  match store.usage.get? day.midnightKey with
  | some _ => store
  | none => store.addCounter day.opened

variable (day) in
/-- The store when a spend is about to be charged: once the counters have closed, the one that opens at
midnight is opened. -/
def prepared (store : MemoryStore) (time : DateTime) : MemoryStore :=
  if time.instant < day.close then store else day.ready store

theorem usedAt_ready (store : MemoryStore) (key : UsageKey) : (day.ready store).usedAt key = store.usedAt key := by
  unfold ready
  split
  next => rfl
  next absent => exact MemoryStore.usedAt_addCounter (by rw [opened_key]; exact absent) rfl key

theorem usedAt_prepared (store : MemoryStore) (time : DateTime) (key : UsageKey) : (day.prepared store time).usedAt key = store.usedAt key := by
  unfold prepared
  split
  next => rfl
  next => exact usedAt_ready store key

theorem Running.addCounter (running : day.Running store) {counter : UsageCounter}
    (known : counter.userId = day.userId → counter.feature = .aiCredits →
      (counter.key = day.cycleKey ∨ counter.key = day.midnightKey) ∧ day.Counter counter) :
    day.Running (store.addCounter counter) where
  keyed := running.keyed.addCounter counter
  entitled := running.entitled
  cycle := OrderedMap.isSome_get?_insert running.cycle
  counters := by
    intro key other found user feature
    change (store.usage.insert counter.key counter).get? key = some other at found
    rw [OrderedMap.get?_insert] at found
    split at found
    next same =>
      cases found
      subst same
      exact known user feature
    next => exact running.counters key other found user feature

theorem Running.ready (running : day.Running store) : day.Running (day.ready store) := by
  unfold QuotaDay.ready
  split
  next => exact running
  next => exact running.addCounter fun _ _ => ⟨.inr day.opened_key, day.opened_counter⟩

theorem Running.prepared (running : day.Running store) (time : DateTime) : day.Running (day.prepared store time) := by
  unfold QuotaDay.prepared
  split
  next => exact running
  next => exact running.ready

theorem openToday_eq (store : MemoryStore) {entitlement : Entitlement} (owner : entitlement.userId = day.userId)
    (expiry : entitlement.expiresAt = day.finish) (date : time.date = day.date) :
    ∃ counter, store.openToday time entitlement = (.ok counter, day.ready store) ∧
      (day.ready store).usage.get? day.midnightKey = some counter := by
  have key : (⟨day.userId, .aiCredits, (DateTime.dayStart day.date).moment⟩ : UsageKey) = day.midnightKey := by
    unfold midnightKey midnight
    rw [(DateTime.dayStart_zoned day.date).moment]
  have close : creditsClose time day.finish = creditsClose (.dayStart day.date) day.finish := by
    unfold creditsClose
    rw [date]
    rfl
  unfold MemoryStore.openToday QuotaDay.ready
  rw [owner, expiry, dailyWindow_of_zoned day.zoned, MemoryStore.proceed_ok, MemoryStore.openCounter_text, date, key,
    close]
  cases found : store.usage.get? day.midnightKey with
  | some counter => exact ⟨counter, rfl, found⟩
  | none =>
    refine ⟨day.opened, rfl, ?_⟩
    rw [← opened_key]
    exact OrderedMap.get?_insert_self _ _ _

theorem Running.mem_of_get? (running : day.Running store) {key : UsageKey} {counter : UsageCounter}
    (found : store.usage.get? key = some counter) (user : key.userId = day.userId)
    (feature : key.feature = .aiCredits) : counter ∈ store.countersOf (.text day.userId) .aiCredits := by
  have named : counter.key = key := running.keyed.usage.name_eq found
  subst named
  exact (MemoryStore.mem_countersOf running.keyed).mpr ⟨found, user, feature⟩

theorem Running.usedAt_nonneg (running : day.Running store) (user : key.userId = day.userId)
    (feature : key.feature = .aiCredits) : 0 ≤ store.usedAt key := by
  cases found : store.usage.get? key with
  | none => exact Int.le_of_eq (MemoryStore.usedAt_of_absent found).symm
  | some counter =>
    obtain ⟨used, counts, whole⟩ := (running.counters key counter found user feature).2.whole
    rw [MemoryStore.usedAt_of_get? found whole]
    exact counts

theorem Running.charged_of_newest (running : day.Running store) (within : day.Within time)
    (early : time.instant < day.close) {counter : UsageCounter}
    (member : counter ∈ store.countersOf (.text day.userId) .aiCredits)
    (latest : ∀ other ∈ store.countersOf (.text day.userId) .aiCredits, other.Covers time →
      other.start.instant ≤ counter.start.instant) : counter.key = day.charged store time := by
  obtain ⟨there, user, feature⟩ := (MemoryStore.mem_countersOf running.keyed).mp member
  obtain ⟨name, known⟩ := running.counters _ _ there user feature
  have after : ∀ key other, store.usage.get? key = some other → key.userId = day.userId →
      key.feature = .aiCredits → other.start.instant ≤ counter.start.instant := by
    intro key other found owner about
    have listed := running.mem_of_get? found owner about
    exact latest other listed ((running.covers_iff within listed).mpr early)
  unfold charged
  split
  next chosen =>
    rcases name with cycle | midnight
    · exact cycle
    · rcases chosen.2 with later | absent
      · obtain ⟨other, present⟩ := Option.isSome_iff_exists.mp running.cycle
        have begun := after _ other present rfl rfl
        have named : other.key = day.cycleKey := running.keyed.usage.name_eq present
        rw [known.instant_of_key midnight,
          (running.counters _ _ present rfl rfl).2.instant_of_key named] at begun
        rw [midnight, midnightKey, cycleKey, Int.le_antisymm later begun]
      · rw [midnight, absent] at there
        cases there
  next chosen =>
    rcases name with cycle | midnight
    · refine absurd ⟨early, ?_⟩ chosen
      cases present : store.usage.get? day.midnightKey with
      | none => exact .inr rfl
      | some other =>
        have begun := after _ other present rfl rfl
        have named : other.key = day.midnightKey := running.keyed.usage.name_eq present
        rw [known.instant_of_key cycle,
          (running.counters _ _ present rfl rfl).2.instant_of_key named] at begun
        exact .inl begun
    · exact midnight

theorem todaysCounter_eq (running : day.Running store) (within : day.Within time) {entitlement : Entitlement}
    (owner : entitlement.userId = day.userId) (expiry : entitlement.expiresAt = day.finish) :
    ∃ counter, store.todaysCounter time entitlement = (.ok counter, day.prepared store time) ∧
      counter.key = day.charged store time ∧ (day.prepared store time).usage.get? counter.key = some counter := by
  have windows : ∀ counter ∈ store.countersOf (.text day.userId) .aiCredits,
      counter.start.Zoned ∧ counter.finish.Zoned := by
    intro counter member
    obtain ⟨found, user, feature⟩ := (MemoryStore.mem_countersOf running.keyed).mp member
    have known := (running.counters _ _ found user feature).2
    exact ⟨known.starts, known.ends⟩
  obtain ⟨found, searched, missing, newest⟩ :=
    MemoryStore.findActiveUsage_of_zoned within.universal.zoned windows
  unfold MemoryStore.todaysCounter
  rw [owner, searched, MemoryStore.proceed_ok]
  by_cases early : time.instant < day.close
  · obtain ⟨cycle, present⟩ := Option.isSome_iff_exists.mp running.cycle
    have listed := running.mem_of_get? present rfl rfl
    cases found with
    | none => exact absurd ((running.covers_iff within listed).mpr early) (missing rfl cycle listed)
    | some counter =>
      obtain ⟨member, -, latest⟩ := newest counter rfl
      have charges := running.charged_of_newest within early member latest
      obtain ⟨there, -⟩ := (MemoryStore.mem_countersOf running.keyed).mp member
      exact ⟨counter, by rw [prepared, if_pos early], charges, by rw [prepared, if_pos early]; exact there⟩
  · cases found with
    | some counter =>
      obtain ⟨member, covers, -⟩ := newest counter rfl
      exact absurd ((running.covers_iff within member).mp covers) early
    | none =>
      obtain ⟨counter, opened, present⟩ := openToday_eq store owner expiry within.date
      have named : counter.key = day.midnightKey := running.ready.keyed.usage.name_eq present
      refine ⟨counter, ?_, ?_, ?_⟩
      · rw [opened, prepared, if_neg early]
      · rw [named, charged, if_neg fun inTime => early inTime.1]
      · rw [prepared, if_neg early, named, present]

theorem Running.replace (running : day.Running store) {counter : UsageCounter}
    (there : store.usage.get? counter.key = some counter) (owner : counter.userId = day.userId)
    (feature : counter.feature = .aiCredits) {used : Int} (counts : 0 ≤ used) :
    day.Running { store with usage := store.usage.insert counter.key { counter with used := .whole used } } where
  keyed := running.keyed.replaceCounter there rfl
  entitled := running.entitled
  cycle := OrderedMap.isSome_get?_insert running.cycle
  counters := by
    intro key other found user about
    dsimp only at found
    rw [OrderedMap.get?_insert] at found
    split at found
    next same =>
      cases found
      obtain ⟨name, known⟩ := running.counters _ counter there owner feature
      exact ⟨same ▸ name, known.starts, known.ends, known.closes, used, counts, rfl⟩
    next => exact running.counters key other found user about

theorem consume_eq (running : day.Running store) (within : day.Within time) (amount : Int) :
    ∃ counter used, counter.key = day.charged store time ∧
      (day.prepared store time).usage.get? counter.key = some counter ∧ counter.userId = day.userId ∧
      counter.feature = .aiCredits ∧ counter.used = .whole used ∧ 0 ≤ used ∧
      (0 < amount → time.instant < day.finish.instant →
        store.consume time (.text day.userId) (.whole amount) =
          (day.prepared store time).charge time (.text day.userId) (.whole amount) day.limit counter) := by
  obtain ⟨entitlement, held, expiry, plan⟩ := running.entitled
  have owner : entitlement.userId = day.userId := running.keyed.entitlements.name_eq held
  obtain ⟨counter, today, charges, there⟩ := todaysCounter_eq running within owner expiry
  have user : counter.userId = day.userId := (congrArg UsageKey.userId charges).trans (charged_user store time)
  have feature : counter.feature = .aiCredits :=
    (congrArg UsageKey.feature charges).trans (charged_feature store time)
  obtain ⟨used, counts, whole⟩ := ((running.prepared time).counters _ counter there user feature).2.whole
  refine ⟨counter, used, charges, there, user, feature, whole, counts, fun positive lasting => ?_⟩
  have filled : (Amount.whole amount).atMost (.whole 0) = false := by
    simp [Amount.atMost, Amount.exceeds, positive]
  have unexpired : store.unexpired (.text day.userId) time = .ok entitlement := by
    refine MemoryStore.unexpired_eq_ok_iff.mpr ⟨⟨_, rfl, held⟩, ?_⟩
    rw [expiry, DateTime.atMost_of_zoned day.zoned within.universal.zoned]
    simp [lasting]
  have quota : store.quota entitlement.planId = .ok day.limit := by
    unfold MemoryStore.quota
    rw [plan]
  unfold MemoryStore.consume
  rw [filled, unexpired]
  simp only [Bool.false_eq_true, ↓reduceIte, MemoryStore.proceed_ok, quota, today]

theorem consume_refused (running : day.Running store) (within : day.Within time) {amount : Int}
    (refused : ¬ (0 < amount ∧ time.instant < day.finish.instant)) :
    (store.consume time (.text day.userId) (.whole amount)).1.isOk = false ∧
      (store.consume time (.text day.userId) (.whole amount)).2 = store := by
  unfold MemoryStore.consume
  split
  next => exact ⟨rfl, rfl⟩
  next filled =>
    have positive : 0 < amount := by
      simpa [Amount.atMost, Amount.exceeds, Amount.isNan] using filled
    obtain ⟨entitlement, held, expiry, plan⟩ := running.entitled
    cases found : store.unexpired (.text day.userId) time with
    | error failure => exact ⟨rfl, rfl⟩
    | ok other =>
      obtain ⟨⟨_, ⟨⟩, here⟩, lasting⟩ := MemoryStore.unexpired_eq_ok_iff.mp found
      rw [held] at here
      cases here
      rw [expiry, DateTime.atMost_of_zoned day.zoned within.universal.zoned] at lasting
      injection lasting with later
      exact absurd ⟨positive, Int.not_le.mp (of_decide_eq_false later)⟩ refused

/-- What a spend does in the course of the day: it succeeds exactly if there is something to spend, the paid
period is not over and the limit allows it. It is counted by the counter it is charged to, and by no other. -/
theorem consume_spec (running : day.Running store) (within : day.Within time) (amount : Int) :
    day.Running (store.consume time (.text day.userId) (.whole amount)).2 ∧
    ((store.consume time (.text day.userId) (.whole amount)).1.isOk = true ↔
      0 < amount ∧ time.instant < day.finish.instant ∧
        store.usedAt (day.charged store time) + amount ≤ day.limit) ∧
    ∀ key, (store.consume time (.text day.userId) (.whole amount)).2.usedAt key = store.usedAt key +
      if (store.consume time (.text day.userId) (.whole amount)).1.isOk = true ∧ key = day.charged store time
      then amount else 0 := by
  by_cases admitted : 0 < amount ∧ time.instant < day.finish.instant
  · obtain ⟨counter, used, charges, there, user, feature, whole, counts, spends⟩ := consume_eq running within amount
    have charged : store.usedAt (day.charged store time) = used := by
      rw [← usedAt_prepared store time, ← charges]
      exact MemoryStore.usedAt_of_get? there whole
    rw [spends admitted.1 admitted.2, MemoryStore.charge_whole there user feature whole, charged]
    split
    next room =>
      refine ⟨(running.prepared time).replace there user feature (by omega), ?_, fun key => ?_⟩
      · simp [Except.isOk, Except.toBool, admitted, room]
      · rw [MemoryStore.usedAt_replace, usedAt_prepared, charges]
        by_cases same : key = day.charged store time
        · rw [if_pos same, if_pos ⟨rfl, same⟩, same, charged]
        · rw [if_neg same, if_neg fun both => same both.2, Int.add_zero]
    next full =>
      refine ⟨running.prepared time, ?_, fun key => ?_⟩
      · simp [Except.isOk, Except.toBool, full]
      · simp [Except.isOk, Except.toBool, usedAt_prepared]
  · obtain ⟨failed, kept⟩ := consume_refused running within admitted
    rw [failed, kept]
    refine ⟨running, ?_, fun key => by simp⟩
    simp only [Bool.false_eq_true, false_iff]
    exact fun allowed => admitted ⟨allowed.1, allowed.2.1⟩

theorem Running.openToday (running : day.Running store) (date : time.date = day.date) {entitlement : Entitlement}
    (held : store.entitlements.get? entitlement.userId = some entitlement) :
    day.Running (store.openToday time entitlement).2 ∧
      ∀ key, (store.openToday time entitlement).2.usedAt key = store.usedAt key := by
  by_cases owner : entitlement.userId = day.userId
  · obtain ⟨own, found, expiry, -⟩ := running.entitled
    rw [← owner, held] at found
    cases found
    obtain ⟨counter, opened, -⟩ := openToday_eq store owner expiry date
    rw [opened]
    exact ⟨running.ready, usedAt_ready store⟩
  · unfold MemoryStore.openToday
    cases dailyWindow time entitlement.expiresAt with
    | error failure => exact ⟨running, fun _ => rfl⟩
    | ok window =>
      rw [MemoryStore.proceed_ok, MemoryStore.openCounter_text]
      split
      next => exact ⟨running, fun _ => rfl⟩
      next absent =>
        exact ⟨running.addCounter fun user => absurd user owner, MemoryStore.usedAt_addCounter absent rfl⟩

theorem Running.openFor (running : day.Running store) (date : time.date = day.date) {entitlement : Entitlement}
    (held : store.entitlements.get? entitlement.userId = some entitlement) :
    day.Running (store.openFor time entitlement).2 ∧
      ∀ key, (store.openFor time entitlement).2.usedAt key = store.usedAt key := by
  unfold MemoryStore.openFor
  split
  next => exact ⟨running, fun _ => rfl⟩
  next => exact running.openToday date held

theorem Running.openAll (running : day.Running store) (date : time.date = day.date) {entitlements : List Entitlement}
    (held : ∀ entitlement ∈ entitlements, store.entitlements.get? entitlement.userId = some entitlement) :
    day.Running (store.openAll time entitlements).2 ∧
      ∀ key, (store.openAll time entitlements).2.usedAt key = store.usedAt key := by
  induction entitlements generalizing store with
  | nil => exact ⟨running, fun _ => rfl⟩
  | cons entitlement rest ih =>
    have here := held entitlement List.mem_cons_self
    obtain ⟨still, same⟩ := running.openFor date here
    have opening : MemoryStore.Counting store (store.openFor time entitlement).2 :=
      MemoryStore.openFor_counting (by rw [here]; rfl)
    obtain ⟨after, rest⟩ := ih still fun other member => by
      rw [opening.onlyCounters.entitlements]
      exact held other (List.mem_cons_of_mem _ member)
    exact ⟨after, fun key => (rest key).trans (same key)⟩

theorem held_of_active (keyed : store.Keyed) {active : List Entitlement}
    (listed : store.activeEntitlements (some time) = .ok active) :
    ∀ entitlement ∈ active, store.entitlements.get? entitlement.userId = some entitlement := by
  intro entitlement member
  have value : entitlement ∈ store.entitlements.values := Outcome.mem_of_filter listed member
  exact keyed.entitlements.mem_values_iff.mp value

theorem Running.resetDaily (running : day.Running store) (date : time.date = day.date) :
    day.Running (store.resetDaily time).2 ∧ ∀ key, (store.resetDaily time).2.usedAt key = store.usedAt key := by
  unfold MemoryStore.resetDaily
  cases active : store.activeEntitlements (some time) with
  | error failure => exact ⟨running, fun _ => rfl⟩
  | ok entitlements => exact running.openAll date (held_of_active running.keyed active)

theorem openAll_opens (running : day.Running store) (date : time.date = day.date) {entitlements : List Entitlement}
    (held : ∀ entitlement ∈ entitlements, store.entitlements.get? entitlement.userId = some entitlement)
    (own : ∃ entitlement ∈ entitlements, entitlement.userId = day.userId) :
    ((store.openAll time entitlements).2.usage.get? day.midnightKey).isSome := by
  induction entitlements generalizing store with
  | nil =>
    obtain ⟨_, ⟨⟩, _⟩ := own
  | cons entitlement rest ih =>
    have here := held entitlement List.mem_cons_self
    have counting : MemoryStore.Counting store (store.openFor time entitlement).2 :=
      MemoryStore.openFor_counting (by rw [here]; rfl)
    have others : ∀ other ∈ rest,
        (store.openFor time entitlement).2.entitlements.get? other.userId = some other := by
      intro other member
      rw [counting.onlyCounters.entitlements]
      exact held other (List.mem_cons_of_mem _ member)
    by_cases owner : entitlement.userId = day.userId
    · obtain ⟨found, there, expiry, plan⟩ := running.entitled
      rw [← owner, here] at there
      cases there
      obtain ⟨counter, opened, present⟩ := openToday_eq store owner expiry date
      have first : (store.openFor time entitlement).2 = day.ready store := by
        unfold MemoryStore.openFor
        rw [plan]
        exact congrArg Prod.snd opened
      have later : MemoryStore.Counting (store.openFor time entitlement).2
          ((store.openFor time entitlement).2.openAll time rest).2 :=
        MemoryStore.openAll_counting fun other member => by rw [others other member]; rfl
      apply later.counted
      rw [first, present]
      rfl
    · apply ih (running.openFor date here).1 others
      obtain ⟨other, member, user⟩ := own
      rcases List.mem_cons.mp member with rfl | member
      · exact absurd user owner
      · exact ⟨other, member, user⟩

theorem resetDaily_opens (running : day.Running store) (within : day.Within time)
    (zoned : store.Zoned)
    (lasting : time.instant < day.finish.instant) :
    ((store.resetDaily time).2.usage.get? day.midnightKey).isSome := by
  have active : store.activeEntitlements (some time) = .ok (store.entitlements.values.filter fun entitlement =>
      decide (time.instant < entitlement.expiresAt.instant)) :=
    Outcome.filter_of_forall fun entitlement member =>
      DateTime.before_of_zoned within.universal.zoned
        (zoned _ _ (running.keyed.entitlements.mem_values_iff.mp member))
  obtain ⟨own, held, expiry, -⟩ := running.entitled
  have owner : own.userId = day.userId := running.keyed.entitlements.name_eq held
  unfold MemoryStore.resetDaily
  rw [active]
  refine openAll_opens running within.date (held_of_active running.keyed active) ⟨own, ?_, owner⟩
  refine List.mem_filter.mpr ⟨running.keyed.entitlements.mem_values_iff.mpr (by rw [owner, held]), ?_⟩
  rw [expiry]
  exact decide_eq_true lasting

end QuotaDay

end PaidAccess
