import Mathlib.Logic.Basic
import PaidAccess.Proofs.Credits.Summary
import PaidAccess.Proofs.Service.Offline
/-!
The exact effect of a spend. A spend is charged to the newest of the user's open counters, or else to the counter that
opens at midnight. What is used of that counter, the entitlement and the plan's quota decide how the spend ends and
which store it leaves.
-/

namespace PaidAccess

theorem Amount.atMost_whole (a b : Int) : (Amount.whole a).atMost (.whole b) = decide (a ≤ b) := by
  have complement : (!decide (b < a)) = decide (a ≤ b) := by
    by_cases order : a ≤ b
    · simp [order, Int.not_lt.mpr order]
    · simp [order, Int.not_le.mp order]
  simp [Amount.atMost, Amount.exceeds, Amount.isNan, complement]

def UsageCounter.credits (counter : UsageCounter) : Int :=
  match counter.used with
  | .whole used => used
  | .real _ => 0

namespace MemoryStore

/-- The counters of a user's credits whose windows hold a point in time. -/
def openCredits (store : MemoryStore) (userId : String) (now : DateTime) : List UsageCounter :=
  store.usage.values.filter fun counter =>
    counter.userId = userId ∧ counter.feature = .aiCredits ∧ counter.Covers now

/-- The counter that a spend is charged to: the open one that started last, or else the one that opens at midnight, if
that is there. -/
def chargeable? (store : MemoryStore) (userId : String) (now : DateTime) : Option UsageCounter :=
  ((store.openCredits userId now).maxOn? fun counter => counter.start.instant).or
    (store.usage.get? (midnightKey userId now))

/-- What is used of that counter, nothing if it is not there yet. -/
def usedToday (store : MemoryStore) (userId : String) (now : DateTime) : Int :=
  ((store.chargeable? userId now).map UsageCounter.credits).getD 0

def WholeCredits (store : MemoryStore) (userId : String) : Prop :=
  ∀ counter ∈ store.usage.values, counter.userId = userId → counter.feature = .aiCredits →
    counter.used = .whole counter.credits

def Entitled (store : MemoryStore) (userId : String) (now : DateTime) (entitlement : Entitlement) : Prop :=
  store.entitlements.get? userId = some entitlement ∧ now.instant < entitlement.expiresAt.instant

def replaceCounter (store : MemoryStore) (counter : UsageCounter) : MemoryStore :=
  { store with usage := store.usage.insert counter.key counter }

def charged (store : MemoryStore) (now : DateTime) (entitlement : Entitlement) : UsageCounter :=
  (store.chargeable? entitlement.userId now).getD (midnightCounter entitlement now)

def withCharged (store : MemoryStore) (now : DateTime) (entitlement : Entitlement) : MemoryStore :=
  match store.chargeable? entitlement.userId now with
  | some _ => store
  | none => store.addCounter (midnightCounter entitlement now)

/-- How a spend ends, and the store that it leaves. -/
inductive Spent (store : MemoryStore) (now : DateTime) (userId : String) (amount : Int) :
    Outcome CreditUsage → MemoryStore → Prop where
  | nothing (nothing : amount ≤ 0) : Spent store now userId amount (.error (.billing .amountNotPositive)) store
  | unentitled (positive : 0 < amount) (unentitled : ∀ entitlement, ¬ store.Entitled userId now entitlement) :
      Spent store now userId amount (.error (.billing .subscriptionMissing)) store
  | unmetered {entitlement : Entitlement} (positive : 0 < amount) (entitled : store.Entitled userId now entitlement)
      (unmetered : store.dailyQuota? entitlement.planId = none) :
      Spent store now userId amount (.error (.billing .planWithoutCredits)) store
  | exceeded {entitlement : Entitlement} {quota : Int} (positive : 0 < amount)
      (entitled : store.Entitled userId now entitlement)
      (metered : store.dailyQuota? entitlement.planId = some quota)
      (exceeded : quota < store.usedToday userId now + amount) :
      Spent store now userId amount (.error (.billing .creditLimitExceeded)) (store.withCharged now entitlement)
  | counted {entitlement : Entitlement} {quota : Int} (positive : 0 < amount)
      (entitled : store.Entitled userId now entitlement)
      (metered : store.dailyQuota? entitlement.planId = some quota)
      (room : store.usedToday userId now + amount ≤ quota) :
      Spent store now userId amount
        (.ok ⟨store.usedToday userId now + amount, quota, quota - (store.usedToday userId now + amount),
          (store.charged now entitlement).finish⟩)
        ((store.withCharged now entitlement).replaceCounter
          { store.charged now entitlement with used := .whole (store.usedToday userId now + amount) })

variable {store : MemoryStore} {userId : String} {now : DateTime} {entitlement : Entitlement}

theorem mem_openCredits (keyed : store.Keyed) {counter : UsageCounter} :
    counter ∈ store.openCredits userId now ↔
      counter ∈ store.countersOf (.text userId) .aiCredits ∧ counter.Covers now := by
  unfold openCredits
  rw [List.mem_filter, mem_countersOf keyed, keyed.usage.mem_values_iff, decide_eq_true_eq, and_assoc, and_assoc]

theorem findActiveUsage_eq_maxOn (sound : store.Sound) (zoned : now.Zoned) :
    store.findActiveUsage (.text userId) .aiCredits (some now) =
      .ok ((store.openCredits userId now).maxOn? fun counter => counter.start.instant) := by
  cases newest : (store.openCredits userId now).maxOn? fun counter => counter.start.instant with
  | none =>
    have windows : ∀ counter ∈ store.countersOf (.text userId) .aiCredits, counter.start.Zoned ∧ counter.finish.Zoned :=
      sound.windows
    obtain ⟨found, searched, -, last⟩ := findActiveUsage_of_zoned zoned windows
    cases found with
    | none => exact searched
    | some counter =>
      obtain ⟨member, covers, -⟩ := last counter rfl
      have listed := (mem_openCredits sound.keyed).mpr ⟨member, covers⟩
      have nonempty := List.isSome_maxOn?_of_mem (f := fun counter : UsageCounter => counter.start.instant) listed
      rw [newest] at nonempty
      cases nonempty
  | some counter =>
    have member := List.maxOn?_mem newest
    obtain ⟨listed, covers⟩ := (mem_openCredits sound.keyed).mp member
    apply (findActiveUsage_eq_some_iff sound.keyed zoned sound.windows).mpr
    refine ⟨listed, covers, fun other also holds => ?_⟩
    have listed : other ∈ store.openCredits userId now := (mem_openCredits sound.keyed).mpr ⟨also, holds⟩
    have last := List.le_apply_get_maxOn?_of_mem (f := fun counter : UsageCounter => counter.start.instant) listed
    simpa only [newest, Option.get_some] using last

theorem mem_of_chargeable (sound : store.Sound) {counter : UsageCounter}
    (found : store.chargeable? userId now = some counter) :
    store.usage.get? counter.key = some counter ∧ counter.userId = userId ∧ counter.feature = .aiCredits := by
  apply (mem_countersOf sound.keyed).mp
  rcases Option.or_eq_some_iff.mp found with newest | ⟨-, there⟩
  · exact ((mem_openCredits sound.keyed).mp (List.maxOn?_mem newest)).1
  · exact sound.keyed.listed_of_midnight there

theorem todaysCounter_eq_charged (sound : store.Sound) (zoned : now.Zoned) (expires : entitlement.expiresAt.Zoned) :
    store.todaysCounter now entitlement = (.ok (store.charged now entitlement), store.withCharged now entitlement) := by
  unfold todaysCounter charged withCharged chargeable?
  rw [findActiveUsage_eq_maxOn sound zoned, proceed_ok]
  cases (store.openCredits entitlement.userId now).maxOn? fun counter => counter.start.instant with
  | some counter => rfl
  | none =>
    unfold openToday
    rw [dailyWindow_of_zoned expires, proceed_ok, openCounter_text, Option.none_or]
    change (match store.usage.get? (midnightKey entitlement.userId now) with | some _ => _ | none => _) = _
    cases store.usage.get? (midnightKey entitlement.userId now) <;> rfl

theorem charged_there (sound : store.Sound) (now : DateTime) (entitlement : Entitlement) :
    (store.withCharged now entitlement).usage.get? (store.charged now entitlement).key =
        some (store.charged now entitlement) ∧
      (store.charged now entitlement).userId = entitlement.userId ∧
      (store.charged now entitlement).feature = .aiCredits := by
  unfold withCharged charged
  cases found : store.chargeable? entitlement.userId now with
  | some counter => exact mem_of_chargeable sound found
  | none => exact ⟨OrderedMap.get?_insert_self _ _ _, rfl, rfl⟩

theorem charged_used (sound : store.Sound) (whole : store.WholeCredits entitlement.userId) (now : DateTime) :
    (store.charged now entitlement).used = .whole (store.usedToday entitlement.userId now) := by
  unfold charged usedToday
  cases found : store.chargeable? entitlement.userId now with
  | some counter =>
    obtain ⟨there, owner, feature⟩ := mem_of_chargeable sound found
    exact whole counter (sound.keyed.usage.mem_values_iff.mpr there) owner feature
  | none => rfl

theorem unexpired_of_entitled (expires : entitlement.expiresAt.Zoned) (zoned : now.Zoned)
    (entitled : store.Entitled userId now entitlement) : store.unexpired (.text userId) now = .ok entitlement := by
  apply unexpired_eq_ok_iff.mpr
  refine ⟨⟨userId, rfl, entitled.1⟩, ?_⟩
  rw [DateTime.atMost_of_zoned expires zoned, decide_eq_false (Int.not_le.mpr entitled.2)]

theorem unexpired_of_not_entitled (sound : store.Sound) (zoned : now.Zoned)
    (unentitled : ∀ entitlement, ¬ store.Entitled userId now entitlement) :
    store.unexpired (.text userId) now = .error (.billing .subscriptionMissing) := by
  unfold unexpired
  cases held : store.entitlements.get? userId with
  | none => simp [atKey, held, bind, Except.bind]
  | some entitlement =>
    have past : entitlement.expiresAt.instant ≤ now.instant :=
      Int.not_lt.mp fun lasting => unentitled entitlement ⟨held, lasting⟩
    have expired : entitlement.expiresAt.atMost now = .ok true := by
      rw [DateTime.atMost_of_zoned (sound.zoned userId entitlement held) zoned, decide_eq_true past]
    simp [atKey, held, expired, bind, Except.bind]

theorem consume_spent (sound : store.Sound) (zoned : now.Zoned) (whole : store.WholeCredits userId) (amount : Int) :
    store.Spent now userId amount (store.consume now (.text userId) (.whole amount)).1
      (store.consume now (.text userId) (.whole amount)).2 := by
  unfold consume
  rw [Amount.atMost_whole]
  by_cases nothing : amount ≤ 0
  · rw [decide_eq_true nothing]
    exact .nothing nothing
  have positive : 0 < amount := Int.not_le.mp nothing
  rw [decide_eq_false nothing]
  simp only [Bool.false_eq_true, ↓reduceIte]
  by_cases unentitled : ∀ entitlement, ¬ store.Entitled userId now entitlement
  · rw [unexpired_of_not_entitled sound zoned unentitled]
    exact .unentitled positive unentitled
  obtain ⟨entitlement, entitled⟩ := not_forall_not.mp unentitled
  have expires := sound.zoned userId entitlement entitled.1
  have owner : entitlement.userId = userId := sound.keyed.entitlements.name_eq entitled.1
  subst owner
  rw [unexpired_of_entitled expires zoned entitled, proceed_ok]
  unfold quota
  cases planned : store.dailyQuota? entitlement.planId with
  | none => exact .unmetered positive entitled planned
  | some quota =>
    obtain ⟨there, user, feature⟩ := charged_there sound now entitlement
    have used := charged_used sound whole now
    rw [proceed_ok, todaysCounter_eq_charged sound zoned expires, proceed_ok,
      charge_whole there user feature used now amount quota]
    by_cases room : store.usedToday entitlement.userId now + amount ≤ quota
    · rw [if_pos room]
      exact .counted positive entitled planned room
    · rw [if_neg room]
      exact .exceeded positive entitled planned (Int.not_le.mp room)

theorem Entitled.unique {other : Entitlement} (entitled : store.Entitled userId now entitlement)
    (also : store.Entitled userId now other) : other = entitlement := by
  have same := also.1.symm.trans entitled.1
  injection same

theorem withCharged_keeps (now : DateTime) (entitlement : Entitlement) {key : UsageKey}
    {counter : UsageCounter} (there : store.usage.get? key = some counter) :
    (store.withCharged now entitlement).usage.get? key = some counter := by
  unfold withCharged
  cases found : store.chargeable? entitlement.userId now with
  | some other => exact there
  | none =>
    have absent := (Option.or_eq_none_iff.mp found).2
    have different : key ≠ (midnightCounter entitlement now).key := by
      rintro rfl
      change store.usage.get? (midnightKey entitlement.userId now) = some counter at there
      rw [absent] at there
      cases there
    exact (OrderedMap.get?_insert_of_ne _ _ different).trans there

namespace Spent

variable {amount : Int} {outcome : Outcome CreditUsage} {after : MemoryStore}

theorem isOk_iff (spent : store.Spent now userId amount outcome after) :
    outcome.isOk = true ↔ 0 < amount ∧ ∃ entitlement quota, store.Entitled userId now entitlement ∧
      store.dailyQuota? entitlement.planId = some quota ∧ store.usedToday userId now + amount ≤ quota := by
  cases spent with
  | nothing nothing => exact iff_of_false nofun fun admitted => absurd admitted.1 (Int.not_lt.mpr nothing)
  | unentitled positive unentitled =>
    apply iff_of_false nofun
    rintro ⟨-, entitlement, -, entitled, -⟩
    exact unentitled entitlement entitled
  | unmetered positive entitled unmetered =>
    apply iff_of_false nofun
    rintro ⟨-, other, quota, also, metered, -⟩
    rw [entitled.unique also, unmetered] at metered
    cases metered
  | exceeded positive entitled metered exceeded =>
    apply iff_of_false nofun
    rintro ⟨-, other, limit, also, planned, room⟩
    rw [entitled.unique also, metered] at planned
    cases planned
    omega
  | counted positive entitled metered room => exact iff_of_true rfl ⟨positive, _, _, entitled, metered, room⟩

theorem reported {usage : CreditUsage} (spent : store.Spent now userId amount (.ok usage) after) :
    usage.used = store.usedToday userId now + amount ∧ usage.remaining = usage.dailyLimit - usage.used ∧
      0 ≤ usage.remaining := by
  cases spent with
  | counted positive entitled metered room => exact ⟨rfl, rfl, Int.sub_nonneg_of_le room⟩

theorem refused {failure : Failure} (spent : store.Spent now userId amount (.error failure) after) :
    (∃ error : BillingError, failure = .billing error ∧ (error.kind = .badRequest ∨ error.kind = .notFound) ∧
      (error.kind = .notFound ↔ 0 < amount ∧ ∀ entitlement, ¬ store.Entitled userId now entitlement)) ∧
    ∀ key counter, store.usage.get? key = some counter → after.usage.get? key = some counter := by
  cases spent with
  | nothing nothing =>
    have otherwise : ¬ (0 < amount ∧ ∀ entitlement, ¬ store.Entitled userId now entitlement) :=
      fun refused => absurd refused.1 (Int.not_lt.mpr nothing)
    exact ⟨⟨.amountNotPositive, rfl, .inl rfl, iff_of_false nofun otherwise⟩, fun _ _ there => there⟩
  | unentitled positive unentitled =>
    exact ⟨⟨.subscriptionMissing, rfl, .inr rfl, iff_of_true rfl ⟨positive, unentitled⟩⟩, fun _ _ there => there⟩
  | unmetered positive entitled unmetered =>
    have otherwise : ¬ (0 < amount ∧ ∀ entitlement, ¬ store.Entitled userId now entitlement) :=
      fun refused => refused.2 _ entitled
    exact ⟨⟨.planWithoutCredits, rfl, .inl rfl, iff_of_false nofun otherwise⟩, fun _ _ there => there⟩
  | exceeded positive entitled metered exceeded =>
    have otherwise : ¬ (0 < amount ∧ ∀ entitlement, ¬ store.Entitled userId now entitlement) :=
      fun refused => refused.2 _ entitled
    exact ⟨⟨.creditLimitExceeded, rfl, .inl rfl, iff_of_false nofun otherwise⟩,
      fun _ _ there => withCharged_keeps now _ there⟩

end Spent

end MemoryStore

namespace Credits

/-- What comes of a spend and which store it leaves. It succeeds exactly if the amount is positive, the user holds an
entitlement that has not expired, its plan has a daily quota, and the sum of what is used today and the amount respects
that quota. A spend that fails is refused, and no counter that is there changes. -/
theorem consume_exact {service : Service} {now : DateTime} {store : MemoryStore} (standing : service.Standing now store)
    (sound : store.Sound) (zoned : now.Zoned) {userId : String} (whole : store.WholeCredits userId) (amount : Int) :
    ∃ outcome after, ((consume (.text userId) (.whole amount)).run service).1 = outcome ∧
      ((consume (.text userId) (.whole amount)).run service).2.Standing now after ∧
      store.Spent now userId amount outcome after ∧
      (outcome.isOk = true ↔ 0 < amount ∧ ∃ entitlement quota, store.Entitled userId now entitlement ∧
        store.dailyQuota? entitlement.planId = some quota ∧ store.usedToday userId now + amount ≤ quota) ∧
      (∀ usage, outcome = .ok usage → usage.used = store.usedToday userId now + amount ∧
        usage.remaining = usage.dailyLimit - usage.used ∧ 0 ≤ usage.remaining) ∧
      ∀ failure, outcome = .error failure →
        (∃ error : BillingError, failure = .billing error ∧ (error.kind = .badRequest ∨ error.kind = .notFound) ∧
          (error.kind = .notFound ↔ 0 < amount ∧ ∀ entitlement, ¬ store.Entitled userId now entitlement)) ∧
        ∀ key counter, store.usage.get? key = some counter → after.usage.get? key = some counter := by
  have evaluates : Evaluates (.mute now) store (consume (.text userId) (.whole amount)) _ := consume_evaluates _ _
  obtain ⟨outcome, after⟩ := evaluates.standing (consume_offline _ _) standing
  have spent := MemoryStore.consume_spent sound zoned whole amount
  refine ⟨_, _, outcome, after, spent, spent.isOk_iff, fun usage succeeded => ?_, fun failure failed => ?_⟩
  · exact MemoryStore.Spent.reported (succeeded ▸ spent)
  · exact MemoryStore.Spent.refused (failed ▸ spent)

/-- Thirty of fifty credits were spent at noon. The other twenty can be spent, too. -/
theorem consume_exact_up_to_limit :
    ∃ outcome after,
      ((consume (.text "u1") (.whole 20)).run (basicShop (midCycle spending) (Sample.march 4 43200))).1 = outcome ∧
      ((consume (.text "u1") (.whole 20)).run (basicShop (midCycle spending) (Sample.march 4 43200))).2.Standing
        (Sample.march 4 43200) after ∧
      (midCycle spending).Spent (Sample.march 4 43200) "u1" 20 outcome after ∧
      (midCycle spending).usedToday "u1" (Sample.march 4 43200) = 30 ∧ outcome.isOk = true := by
  have standing : (basicShop (midCycle spending) (Sample.march 4 43200)).Standing (Sample.march 4 43200)
      (midCycle spending) := ⟨rfl, rfl, fun _ => rfl⟩
  have whole : (midCycle spending).WholeCredits "u1" := by
    unfold MemoryStore.WholeCredits
    decide +kernel
  have succeeds : ((consume (.text "u1") (.whole 20)).run
      (basicShop (midCycle spending) (Sample.march 4 43200))).1.isOk = true := by decide +kernel
  obtain ⟨outcome, after, ended, left, spent, -⟩ :=
    consume_exact standing (midCycle_reachable spending).sound ⟨0, rfl⟩ whole 20
  exact ⟨outcome, after, ended, left, spent, by decide +kernel, ended ▸ succeeds⟩

end Credits

end PaidAccess
