import PaidAccess.Proofs.Credits.Spend
/-!
The exact effect of the daily job. It opens the counter of each subscriber that starts at midnight, unless that is
there, and changes nothing else. A later run on the same day finds all of these counters, whatever has been spent from
them, and changes nothing at all.
-/

namespace PaidAccess

namespace MemoryStore

def active (store : MemoryStore) (now : DateTime) : List Entitlement :=
  store.entitlements.values.filter fun entitlement => now.instant < entitlement.expiresAt.instant

def metered (store : MemoryStore) (entitlements : List Entitlement) : List Entitlement :=
  entitlements.filter fun entitlement => (store.dailyQuota? entitlement.planId).isSome

/-- The subscribers that the daily job is for: their entitlements have not expired, and their plans have a quota. -/
def subscribers (store : MemoryStore) (now : DateTime) : List Entitlement := store.metered (store.active now)

def unopened (store : MemoryStore) (now : DateTime) (entitlement : Entitlement) : Bool :=
  (store.usage.get? (midnightKey entitlement.userId now)).isNone

def openMidnight (store : MemoryStore) (now : DateTime) (entitlement : Entitlement) : MemoryStore :=
  if store.unopened now entitlement then store.addCounter (midnightCounter entitlement now) else store

def openDay (store : MemoryStore) (now : DateTime) : List Entitlement → MemoryStore
  | [] => store
  | entitlement :: rest => (store.openMidnight now entitlement).openDay now rest

variable {store after : MemoryStore} {now time : DateTime} {entitlement other : Entitlement}
  {entitlements : List Entitlement}

theorem mem_subscribers : entitlement ∈ store.subscribers now ↔
    entitlement ∈ store.entitlements.values ∧ now.instant < entitlement.expiresAt.instant ∧
      (store.dailyQuota? entitlement.planId).isSome := by
  unfold subscribers metered active
  rw [List.mem_filter, List.mem_filter, decide_eq_true_eq, and_assoc]

theorem metered_congr (same : after.plans = store.plans) (entitlements : List Entitlement) :
    after.metered entitlements = store.metered entitlements := by
  unfold metered
  congr 1
  funext entitlement
  rw [dailyQuota?_congr same]

theorem OnlyCounters.refl (store : MemoryStore) : OnlyCounters store store := ⟨rfl, rfl, rfl, rfl⟩

theorem openMidnight_onlyCounters (store : MemoryStore) (now : DateTime) (entitlement : Entitlement) :
    OnlyCounters store (store.openMidnight now entitlement) := by
  unfold openMidnight
  split
  next => exact ⟨rfl, rfl, rfl, rfl⟩
  next => exact .refl store

theorem openDay_onlyCounters (store : MemoryStore) (now : DateTime) (entitlements : List Entitlement) :
    OnlyCounters store (store.openDay now entitlements) := by
  induction entitlements generalizing store with
  | nil => exact .refl store
  | cons entitlement rest ih =>
    have first := store.openMidnight_onlyCounters now entitlement
    have others := ih (store.openMidnight now entitlement)
    exact ⟨others.users.trans first.users, others.plans.trans first.plans,
      others.entitlements.trans first.entitlements, others.resets.trans first.resets⟩

theorem openDay_append (store : MemoryStore) (now : DateTime) (first second : List Entitlement) :
    store.openDay now (first ++ second) = (store.openDay now first).openDay now second := by
  induction first generalizing store with
  | nil => rfl
  | cons entitlement rest ih => exact ih _

theorem Keyed.openMidnight (keyed : store.Keyed) (now : DateTime) (entitlement : Entitlement) :
    (store.openMidnight now entitlement).Keyed := by
  unfold MemoryStore.openMidnight
  split
  next => exact keyed.addCounter _
  next => exact keyed

theorem get?_openMidnight_of_ne (store : MemoryStore) (now : DateTime) {key : UsageKey}
    (different : key ≠ midnightKey entitlement.userId now) :
    (store.openMidnight now entitlement).usage.get? key = store.usage.get? key := by
  unfold openMidnight
  split
  next => exact OrderedMap.get?_insert_of_ne _ _ different
  next => rfl

theorem openMidnight_counted (store : MemoryStore) (now : DateTime) (entitlement : Entitlement) {key : UsageKey}
    (there : (store.usage.get? key).isSome) : ((store.openMidnight now entitlement).usage.get? key).isSome := by
  unfold openMidnight
  split
  next => exact OrderedMap.isSome_get?_insert there
  next => exact there

theorem openDay_counted (store : MemoryStore) (now : DateTime) (entitlements : List Entitlement) {key : UsageKey}
    (there : (store.usage.get? key).isSome) : ((store.openDay now entitlements).usage.get? key).isSome := by
  induction entitlements generalizing store with
  | nil => exact there
  | cons entitlement rest ih => exact ih _ (store.openMidnight_counted now entitlement there)

theorem openMidnight_opens (store : MemoryStore) (now : DateTime) (entitlement : Entitlement) :
    ((store.openMidnight now entitlement).usage.get? (midnightKey entitlement.userId now)).isSome := by
  unfold openMidnight
  split
  next =>
    have there : (store.addCounter (midnightCounter entitlement now)).usage.get?
        (midnightKey entitlement.userId now) = some (midnightCounter entitlement now) :=
      OrderedMap.get?_insert_self _ _ _
    rw [there]
    rfl
  next opened =>
    unfold unopened at opened
    rw [Bool.not_eq_true, Option.isNone_eq_false_iff] at opened
    exact opened

theorem openDay_opens (store : MemoryStore) (now : DateTime) (member : entitlement ∈ entitlements) :
    ((store.openDay now entitlements).usage.get? (midnightKey entitlement.userId now)).isSome := by
  induction entitlements generalizing store with
  | nil => cases member
  | cons head rest ih =>
    rcases List.mem_cons.mp member with rfl | later
    · exact openDay_counted _ now rest (store.openMidnight_opens now entitlement)
    · exact ih _ later

theorem openDay_of_opened (opened : ∀ entitlement ∈ entitlements,
      (store.usage.get? (midnightKey entitlement.userId now)).isSome) : store.openDay now entitlements = store := by
  induction entitlements with
  | nil => rfl
  | cons entitlement rest ih =>
    have there : store.unopened now entitlement = false :=
      Option.isNone_eq_false_iff.mpr (opened entitlement List.mem_cons_self)
    have first : store.openMidnight now entitlement = store := by
      unfold openMidnight
      rw [there]
      rfl
    unfold openDay
    rw [first]
    exact ih fun other member => opened other (List.mem_cons_of_mem _ member)

theorem listedUsage_addCounter (keyed : store.Keyed) {counter : UsageCounter}
    (absent : store.usage.get? counter.key = none) :
    (store.addCounter counter).listedUsage = store.listedUsage ++ [(counter.start, counter)] := by
  have unlisted : store.listedStarts.get? counter.key = none := by
    rw [OrderedMap.get?_eq_none_iff] at absent ⊢
    exact fun listed => absent (keyed.listed _ listed)
  have others : ∀ entry ∈ store.usage.entries,
      (store.listedStarts.insertNew counter.key counter.start).get? entry.1 = store.listedStarts.get? entry.1 := by
    intro entry member
    apply OrderedMap.get?_insertNew_of_ne
    rintro same
    have there := List.mem_map_of_mem (f := Prod.fst) member
    rw [same] at there
    exact (OrderedMap.get?_eq_none_iff _ _).mp absent there
  unfold listedUsage addCounter
  dsimp only
  rw [OrderedMap.entries_insert_of_get?_eq_none absent, List.map_append]
  congr 1
  · apply List.map_congr_left
    intro entry member
    rw [others entry member]
  · rw [List.map_singleton, OrderedMap.get?_insertNew_self, unlisted]
    rfl

theorem midnightKey_ne_of_userId {first second : String} (different : first ≠ second) (now : DateTime) :
    midnightKey first now ≠ midnightKey second now :=
  fun same => different (congrArg UsageKey.userId same)

theorem listedUsage_openDay (keyed : store.Keyed) (now : DateTime) (distinct : (entitlements.map (·.userId)).Nodup) :
    (store.openDay now entitlements).listedUsage =
      store.listedUsage ++ (entitlements.filter (store.unopened now)).map fun entitlement =>
        (DateTime.dayStart now.date, midnightCounter entitlement now) := by
  induction entitlements generalizing store with
  | nil => simp [openDay]
  | cons entitlement rest ih =>
    obtain ⟨apart, others⟩ := List.nodup_cons.mp distinct
    have later : rest.filter ((store.openMidnight now entitlement).unopened now) = rest.filter (store.unopened now) := by
      apply List.filter_congr
      intro other member
      have different : other.userId ≠ entitlement.userId := fun same =>
        apart (List.mem_map.mpr ⟨other, member, same⟩)
      unfold unopened
      rw [get?_openMidnight_of_ne store now (midnightKey_ne_of_userId different now)]
    unfold openDay
    rw [ih (keyed.openMidnight now entitlement) others, later]
    cases unopened : store.unopened now entitlement with
    | true =>
      have absent : store.usage.get? (midnightCounter entitlement now).key = none :=
        Option.isNone_iff_eq_none.mp unopened
      have first : store.openMidnight now entitlement = store.addCounter (midnightCounter entitlement now) :=
        if_pos unopened
      rw [first, listedUsage_addCounter keyed absent, List.filter_cons_of_pos unopened, List.map_cons, List.append_assoc]
      rfl
    | false =>
      have first : store.openMidnight now entitlement = store := if_neg (Bool.not_eq_true _ ▸ unopened)
      rw [first, List.filter_cons_of_neg (Bool.not_eq_true _ ▸ unopened)]

theorem exists_openCounter_midnight (store : MemoryStore) (now : DateTime) (entitlement : Entitlement) :
    ∃ counter, store.openCounter (.text entitlement.userId) .aiCredits (some (.dayStart now.date))
      (some (creditsClose now entitlement.expiresAt)) = (.ok counter, store.openMidnight now entitlement) := by
  have key : (⟨entitlement.userId, .aiCredits, (DateTime.dayStart now.date).moment⟩ : UsageKey) =
      midnightKey entitlement.userId now := rfl
  unfold openMidnight unopened
  rw [openCounter_text, key]
  cases store.usage.get? (midnightKey entitlement.userId now) with
  | none => exact ⟨midnightCounter entitlement now, rfl⟩
  | some counter => exact ⟨counter, rfl⟩

theorem openToday_eq_openMidnight (expires : entitlement.expiresAt.Zoned) (store : MemoryStore) (now : DateTime) :
    (store.openToday now entitlement).1.isOk = true ∧
      (store.openToday now entitlement).2 = store.openMidnight now entitlement := by
  obtain ⟨counter, opened⟩ := store.exists_openCounter_midnight now entitlement
  unfold openToday
  rw [dailyWindow_of_zoned expires, proceed_ok, opened]
  exact ⟨rfl, rfl⟩

theorem openAll_eq_openDay (expire : ∀ entitlement ∈ entitlements, entitlement.expiresAt.Zoned) (store : MemoryStore)
    (now : DateTime) : store.openAll now entitlements =
      ((store.metered entitlements).length, store.openDay now (store.metered entitlements)) := by
  induction entitlements generalizing store with
  | nil => rfl
  | cons entitlement rest ih =>
    have others : ∀ other ∈ rest, other.expiresAt.Zoned := fun other member =>
      expire other (List.mem_cons_of_mem _ member)
    unfold openAll openFor
    dsimp only
    cases planned : store.dailyQuota? entitlement.planId with
    | none =>
      have first : store.metered (entitlement :: rest) = store.metered rest :=
        List.filter_cons_of_neg (by simp [planned])
      rw [first, ih others, Nat.zero_add]
    | some quota =>
      have first : store.metered (entitlement :: rest) = entitlement :: store.metered rest :=
        List.filter_cons_of_pos (by simp [planned])
      obtain ⟨succeeds, opened⟩ := openToday_eq_openMidnight (expire entitlement List.mem_cons_self) store now
      have plans := (store.openMidnight_onlyCounters now entitlement).plans
      rw [first, succeeds, opened, ih others, metered_congr plans, List.length_cons]
      exact Prod.ext (Nat.add_comm _ _) rfl

theorem activeEntitlements_eq_active (keyed : store.Keyed) (zoned : store.Zoned) (clock : now.Zoned) :
    store.activeEntitlements (some now) = .ok (store.active now) :=
  Outcome.filter_of_forall fun _ member =>
    DateTime.before_of_zoned clock (zoned _ _ (keyed.entitlements.mem_values_iff.mp member))

theorem resetDaily_eq_openDay (keyed : store.Keyed) (zoned : store.Zoned) (clock : now.Zoned) :
    store.resetDaily now = (.ok (store.subscribers now).length, store.openDay now (store.subscribers now)) := by
  have expire : ∀ entitlement ∈ store.active now, entitlement.expiresAt.Zoned := by
    intro entitlement member
    exact zoned _ _ (keyed.entitlements.mem_values_iff.mp (List.mem_filter.mp member).1)
  unfold resetDaily
  rw [activeEntitlements_eq_active keyed zoned clock, proceed_ok, openAll_eq_openDay expire]
  rfl

theorem subscribers_distinct (keyed : store.Keyed) (now : DateTime) :
    ((store.subscribers now).map (·.userId)).Nodup := by
  have listed : store.entitlements.values.map (·.userId) = store.entitlements.keys := by
    unfold OrderedMap.values OrderedMap.keys
    rw [List.map_map]
    exact List.map_congr_left keyed.entitlements.named
  have all : (store.entitlements.values.map (·.userId)).Nodup := listed ▸ keyed.entitlements.distinct
  have some : (store.subscribers now).Sublist store.entitlements.values :=
    List.filter_sublist.trans List.filter_sublist
  exact all.sublist (some.map _)

/-- Who is a subscriber does not depend on counters, and nobody becomes one as time passes. -/
theorem mem_subscribers_of_later (only : OnlyCounters store after) (later : now.instant ≤ time.instant)
    (member : entitlement ∈ after.subscribers time) : entitlement ∈ store.subscribers now := by
  obtain ⟨listed, lasting, metered⟩ := mem_subscribers.mp member
  rw [only.entitlements] at listed
  rw [dailyQuota?_congr only.plans] at metered
  exact mem_subscribers.mpr ⟨listed, Int.lt_of_le_of_lt later lasting, metered⟩

theorem subscribers_congr (only : OnlyCounters store after) (now : DateTime) :
    after.subscribers now = store.subscribers now := by
  unfold subscribers active
  rw [metered_congr only.plans, only.entitlements]

end MemoryStore

namespace Credits

open MemoryStore

variable {service : Service} {store : MemoryStore} {now : DateTime}

theorem run_resetDaily (standing : service.Standing now store) (keyed : store.Keyed) (zoned : store.Zoned)
    (clock : now.Zoned) :
    (resetDaily.run service).1 = .ok (store.subscribers now).length ∧
      (resetDaily.run service).2.Standing now (store.openDay now (store.subscribers now)) := by
  have evaluates : Evaluates (.mute now) store resetDaily (store.resetDaily now) := resetDaily_evaluates
  rw [resetDaily_eq_openDay keyed zoned clock] at evaluates
  exact evaluates.standing resetDaily_offline standing

theorem run_resetDaily_of_opened (standing : service.Standing now store) (keyed : store.Keyed) (zoned : store.Zoned)
    (clock : now.Zoned)
    (opened : ∀ entitlement ∈ store.subscribers now, (store.usage.get? (midnightKey entitlement.userId now)).isSome) :
    (resetDaily.run service).1 = .ok (store.subscribers now).length ∧
      (resetDaily.run service).2.store = service.store := by
  obtain ⟨outcome, left⟩ := run_resetDaily standing keyed zoned clock
  rw [openDay_of_opened opened] at left
  exact ⟨outcome, left.memory.trans standing.memory.symm⟩

/-- The daily job opens a counter at zero for each subscriber who has none that starts at midnight, changes nothing
else, and tells how many subscribers there are. Whatever is requested about credits then, a later run on the same day
leaves the store as it is. -/
theorem resetDaily_exact (standing : service.Standing now store) (keyed : store.Keyed) (zoned : store.Zoned)
    (universal : now.Universal) :
    (∃ after, (resetDaily.run service).1 = .ok (store.subscribers now).length ∧
      (resetDaily.run service).2.Standing now after ∧ OnlyCounters store after ∧
      after.listedUsage = store.listedUsage ++ ((store.subscribers now).filter (store.unopened now)).map
        fun entitlement => (DateTime.dayStart now.date, midnightCounter entitlement now)) ∧
    ∀ (calls : List (DateTime × CreditCall)) (time : DateTime), time.Universal → time.date = now.date →
      now.instant ≤ time.instant →
      (resetDaily.run { (resetDaily.run service).2.credited calls with now := time }).1 =
          .ok (store.subscribers time).length ∧
        (resetDaily.run { (resetDaily.run service).2.credited calls with now := time }).2.store =
          ((resetDaily.run service).2.credited calls).store := by
  obtain ⟨outcome, left⟩ := run_resetDaily standing keyed zoned universal.zoned
  have listed := listedUsage_openDay keyed now (subscribers_distinct keyed now)
  have counting : Counting store (store.openDay now (store.subscribers now)) := by
    have counting := resetDaily_counting keyed now
    rw [resetDaily_eq_openDay keyed zoned universal.zoned] at counting
    exact counting
  refine ⟨⟨_, outcome, left, counting.onlyCounters, listed⟩, fun calls time later date order => ?_⟩
  obtain ⟨last, standing⟩ := left.credited calls
  have since := credited_counting (counting.keyed keyed) calls
  have whole : Counting store ((store.openDay now (store.subscribers now)).credited calls) := counting.trans since
  have only := whole.onlyCounters
  rw [← subscribers_congr only]
  apply run_resetDaily_of_opened (standing.wait time) (whole.keyed keyed) (zoned.of_entitlements only.entitlements)
    later.zoned
  intro entitlement member
  have opened := store.openDay_opens now (mem_subscribers_of_later only order member)
  unfold midnightKey at opened ⊢
  rw [date]
  exact since.counted opened

def bought : MemoryStore := (Sample.store.reconcile Sample.around Sample.checkout).2

theorem bought_sound : bought.Sound :=
  ((((MemoryStore.Reachable.empty.addUser Sample.user).addPlan Sample.basic).addPlan Sample.studio).reconcile
    ⟨0, rfl⟩ Sample.checkout).sound

/-- The job runs at midnight, credits are spent, and the job runs again at noon. -/
theorem resetDaily_exact_until_noon :
    (resetDaily.run (basicShop bought (Sample.march 4 0))).1 = .ok 1 ∧
      (∃ after, (resetDaily.run (basicShop bought (Sample.march 4 0))).2.Standing (Sample.march 4 0) after ∧
        after.listedUsage.length = bought.listedUsage.length + 1) ∧
      (resetDaily.run { (resetDaily.run (basicShop bought (Sample.march 4 0))).2.credited
        [(Sample.march 4 36000, spending)] with now := Sample.march 4 43200 }).1 = .ok 1 := by
  have standing : (basicShop bought (Sample.march 4 0)).Standing (Sample.march 4 0) bought := ⟨rfl, rfl, fun _ => rfl⟩
  obtain ⟨⟨after, opened, left, -, listed⟩, again⟩ :=
    resetDaily_exact standing bought_sound.keyed bought_sound.zoned rfl
  have one : (bought.subscribers (Sample.march 4 0)).length = 1 := by decide +kernel
  have still : (bought.subscribers (Sample.march 4 43200)).length = 1 := by decide +kernel
  have new : ((bought.subscribers (Sample.march 4 0)).filter (bought.unopened (Sample.march 4 0))).length = 1 := by
    decide +kernel
  refine ⟨one ▸ opened, ⟨after, left, ?_⟩, ?_⟩
  · rw [listed, List.length_append, List.length_map, new]
  · have same := (again [(Sample.march 4 36000, spending)] (Sample.march 4 43200) rfl rfl (by decide)).1
    rw [still] at same
    exact same

end Credits

end PaidAccess
