import PaidAccess.Proofs.Store.Keyed
import PaidAccess.Proofs.Calendar.Order
/-!
What a search in the store finds.
-/

namespace PaidAccess

theorem Outcome.bind_eq_ok_iff {α β : Type} {outcome : Outcome α} {next : α → Outcome β} {value : β} :
    (outcome >>= next) = .ok value ↔ ∃ first, outcome = .ok first ∧ next first = .ok value := by
  cases outcome with
  | ok first => exact ⟨fun done => ⟨first, rfl, done⟩, by rintro ⟨_, ⟨⟩, done⟩; exact done⟩
  | error failure => exact ⟨(nomatch ·), by rintro ⟨_, ⟨⟩, _⟩⟩

theorem Outcome.eq_ok_of_toOption {α : Type} {outcome : Outcome α} {value : α}
    (known : outcome.toOption = some value) : outcome = .ok value := by
  cases outcome with
  | ok found => exact congrArg Except.ok (Option.some.inj known)
  | error failure => cases known

theorem Outcome.mem_of_filter {α : Type} {test : α → Outcome Bool} {items kept : List α} {item : α}
    (filtered : Outcome.filter test items = .ok kept) (member : item ∈ kept) : item ∈ items := by
  induction items generalizing kept with
  | nil => cases filtered; exact member
  | cons head rest ih =>
    unfold Outcome.filter at filtered
    cases here : test head with
    | error failure => rw [here] at filtered; cases filtered
    | ok keeps =>
      cases later : Outcome.filter test rest with
      | error failure => rw [here, later] at filtered; cases filtered
      | ok others =>
        rw [here, later] at filtered
        cases filtered
        cases keeps with
        | true =>
          rcases List.mem_cons.mp member with rfl | other
          · exact List.mem_cons_self
          · exact List.mem_cons_of_mem _ (ih later other)
        | false => exact List.mem_cons_of_mem _ (ih later member)

theorem Outcome.mem_of_mapM {α β : Type} {make : α → Outcome β} {items : List α} {made : List β}
    (all : items.mapM make = .ok made) : ∀ result ∈ made, ∃ item ∈ items, make item = .ok result := by
  induction items generalizing made with
  | nil =>
    cases all
    exact fun _ => nofun
  | cons item rest ih =>
    rw [List.mapM_cons] at all
    obtain ⟨first, here, all⟩ := Outcome.bind_eq_ok_iff.mp all
    obtain ⟨others, there, all⟩ := Outcome.bind_eq_ok_iff.mp all
    cases all
    intro result member
    rcases List.mem_cons.mp member with rfl | later
    · exact ⟨item, List.mem_cons_self, here⟩
    · obtain ⟨other, listed, same⟩ := ih there result later
      exact ⟨other, List.mem_cons_of_mem _ listed, same⟩

theorem Outcome.filter_of_forall {α : Type} {test : α → Outcome Bool} {passes : α → Bool} {items : List α}
    (decided : ∀ item ∈ items, test item = .ok (passes item)) :
    Outcome.filter test items = .ok (items.filter passes) := by
  induction items with
  | nil => rfl
  | cons item rest ih =>
    unfold Outcome.filter
    rw [decided item List.mem_cons_self, ih fun other member => decided other (List.mem_cons_of_mem _ member)]
    cases here : passes item <;> simp [here, bind, Except.bind, pure, Except.pure]

/-- Whether a counter with a zoned window holds a zoned time: from its start up to its end, which is left
out. -/
def UsageCounter.Covers (counter : UsageCounter) (time : DateTime) : Prop :=
  counter.start.instant ≤ time.instant ∧ time.instant < counter.finish.instant

instance (counter : UsageCounter) (time : DateTime) : Decidable (counter.Covers time) :=
  inferInstanceAs (Decidable (_ ∧ _))

namespace MemoryStore

theorem holds_of_zoned {counter : UsageCounter} {time : DateTime} (starts : counter.start.Zoned)
    (ends : counter.finish.Zoned) (zoned : time.Zoned) :
    holds (some time) counter = .ok (decide (counter.Covers time)) := by
  unfold holds
  simp only [DateTime.atMost_of_zoned starts zoned, DateTime.before_of_zoned zoned ends, UsageCounter.Covers]
  by_cases begun : counter.start.instant ≤ time.instant <;>
    simp [begun, bind, Except.bind, pure, Except.pure]

theorem newest_of_ranked {rank : UsageCounter → Int} {counters : List UsageCounter}
    (ranked : ∀ counter ∈ counters, ∀ other ∈ counters,
      counter.start.before other.start = .ok (decide (rank counter < rank other))) :
    ∃ found, newest counters = .ok found ∧ (found = none → counters = []) ∧
      ∀ counter, found = some counter → counter ∈ counters ∧ ∀ other ∈ counters, rank other ≤ rank counter := by
  induction counters with
  | nil => exact ⟨none, rfl, fun _ => rfl, fun _ => nofun⟩
  | cons head rest ih =>
    obtain ⟨later, found, empty, last⟩ := ih fun counter member other also =>
      ranked counter (List.mem_cons_of_mem _ member) other (List.mem_cons_of_mem _ also)
    unfold newest
    rw [found]
    cases later with
    | none =>
      refine ⟨some head, rfl, nofun, ?_⟩
      rintro counter ⟨⟩
      rw [empty rfl]
      exact ⟨List.mem_cons_self, fun other member => (List.mem_singleton.mp member) ▸ Int.le_refl _⟩
    | some later =>
      obtain ⟨member, latest⟩ := last later rfl
      have compared := ranked head List.mem_cons_self later (List.mem_cons_of_mem _ member)
      simp only [bind, Except.bind, pure, Except.pure, compared]
      by_cases earlier : rank head < rank later
      · refine ⟨some later, by simp [earlier], nofun, ?_⟩
        rintro counter ⟨⟩
        refine ⟨List.mem_cons_of_mem _ member, fun other there => ?_⟩
        rcases List.mem_cons.mp there with rfl | there
        · exact Int.le_of_lt earlier
        · exact latest other there
      · refine ⟨some head, by simp [earlier], nofun, ?_⟩
        rintro counter ⟨⟩
        refine ⟨List.mem_cons_self, fun other there => ?_⟩
        rcases List.mem_cons.mp there with rfl | there
        · exact Int.le_refl _
        · exact Int.le_trans (latest other there) (Int.not_lt.mp earlier)

theorem newest_of_zoned {counters : List UsageCounter} (zoned : ∀ counter ∈ counters, counter.start.Zoned) :
    ∃ found, newest counters = .ok found ∧ (found = none → counters = []) ∧
      ∀ counter, found = some counter → counter ∈ counters ∧
        ∀ other ∈ counters, other.start.instant ≤ counter.start.instant :=
  newest_of_ranked fun counter member other also =>
    DateTime.before_of_zoned (zoned counter member) (zoned other also)

theorem mem_countersOf {store : MemoryStore} (keyed : store.Keyed) {userId : String} {feature : FeatureKey}
    {counter : UsageCounter} :
    counter ∈ store.countersOf (.text userId) feature ↔
      store.usage.get? counter.key = some counter ∧ counter.userId = userId ∧ counter.feature = feature := by
  unfold countersOf
  simp only [List.mem_map, List.mem_filter, Value.isText?, Bool.and_eq_true, beq_iff_eq, Option.some.injEq,
    decide_eq_true_eq]
  constructor
  · rintro ⟨⟨key, other⟩, ⟨listed, user, about⟩, rfl⟩
    have found := keyed.usage.get?_of_mem listed
    have name : other.key = key := keyed.usage.name_eq found
    subst name
    exact ⟨found, user, about⟩
  · rintro ⟨found, rfl, rfl⟩
    exact ⟨(counter.key, counter), ⟨OrderedMap.mem_of_get? found, rfl, rfl⟩, rfl⟩

/-- At a zoned time, among counters with zoned windows, the search finds one that holds the time and
started last, or nothing if none holds it. -/
theorem findActiveUsage_of_zoned {store : MemoryStore} {userId : Value} {feature : FeatureKey} {time : DateTime}
    (zoned : time.Zoned)
    (windows : ∀ counter ∈ store.countersOf userId feature, counter.start.Zoned ∧ counter.finish.Zoned) :
    ∃ found, store.findActiveUsage userId feature (some time) = .ok found ∧
      (found = none → ∀ counter ∈ store.countersOf userId feature, ¬ counter.Covers time) ∧
      ∀ counter, found = some counter → counter ∈ store.countersOf userId feature ∧ counter.Covers time ∧
        ∀ other ∈ store.countersOf userId feature, other.Covers time → other.start.instant ≤ counter.start.instant := by
  have filtered : Outcome.filter (holds (some time)) (store.countersOf userId feature) =
      .ok ((store.countersOf userId feature).filter fun counter => decide (counter.Covers time)) :=
    Outcome.filter_of_forall fun counter member =>
      holds_of_zoned (windows counter member).1 (windows counter member).2 zoned
  have starts : ∀ counter ∈ (store.countersOf userId feature).filter fun counter => decide (counter.Covers time),
      counter.start.Zoned := fun counter member => (windows counter (List.mem_filter.mp member).1).1
  obtain ⟨found, newest, empty, last⟩ := newest_of_zoned starts
  refine ⟨found, ?_, ?_, ?_⟩
  · unfold findActiveUsage
    rw [filtered]
    exact newest
  · rintro absent counter member covers
    have none : counter ∉ (store.countersOf userId feature).filter fun counter => decide (counter.Covers time) := by
      rw [empty absent]
      exact List.not_mem_nil
    exact none (List.mem_filter.mpr ⟨member, decide_eq_true covers⟩)
  · rintro counter here
    obtain ⟨member, latest⟩ := last counter here
    obtain ⟨listed, covers⟩ := List.mem_filter.mp member
    exact ⟨listed, of_decide_eq_true covers, fun other there also =>
      latest other (List.mem_filter.mpr ⟨there, decide_eq_true also⟩)⟩

theorem findActiveUsage_eq_some_iff {store : MemoryStore} (keyed : store.Keyed) {userId : String} {feature : FeatureKey}
    {time : DateTime} {counter : UsageCounter} (zoned : time.Zoned)
    (windows : ∀ counter ∈ store.countersOf (.text userId) feature, counter.start.Zoned ∧ counter.finish.Zoned) :
    store.findActiveUsage (.text userId) feature (some time) = .ok (some counter) ↔
      counter ∈ store.countersOf (.text userId) feature ∧ counter.Covers time ∧
        ∀ other ∈ store.countersOf (.text userId) feature, other.Covers time →
          other.start.instant ≤ counter.start.instant := by
  obtain ⟨found, searched, missing, newest⟩ := findActiveUsage_of_zoned zoned windows
  rw [searched]
  constructor
  · rintro ⟨⟩
    exact newest counter rfl
  · rintro ⟨member, covers, latest⟩
    cases found with
    | none => exact absurd covers (missing rfl counter member)
    | some other =>
      obtain ⟨also, coversToo, latestToo⟩ := newest other rfl
      have together : other.start.instant = counter.start.instant :=
        Int.le_antisymm (latest other also coversToo) (latestToo counter member covers)
      obtain ⟨here, user, about⟩ := (mem_countersOf keyed).mp member
      obtain ⟨there, userToo, aboutToo⟩ := (mem_countersOf keyed).mp also
      have same : other.key = counter.key := by
        unfold UsageCounter.key
        rw [user, userToo, about, aboutToo, (windows counter member).1.moment, (windows other also).1.moment, together]
      rw [same, here] at there
      rw [← there]

theorem not_covers_of_idle {store : MemoryStore} {userId : Value} {feature : FeatureKey} {time : DateTime}
    (zoned : time.Zoned)
    (windows : ∀ counter ∈ store.countersOf userId feature, counter.start.Zoned ∧ counter.finish.Zoned)
    (idle : store.findActiveUsage userId feature (some time) = .ok none) :
    ∀ counter ∈ store.countersOf userId feature, ¬ counter.Covers time := by
  obtain ⟨found, searched, missing, -⟩ := findActiveUsage_of_zoned zoned windows
  rw [idle] at searched
  cases searched
  exact missing rfl

theorem text_of_atKey {α : Type} {find : String → Option α} {value : Value} {found : α}
    (looked : atKey none find value = .ok (some found)) : ∃ key, value = .text key ∧ find key = some found := by
  cases value with
  | text key =>
    unfold atKey at looked
    exact ⟨key, rfl, by injection looked⟩
  | _ => unfold atKey at looked; cases looked

def Zoned (store : MemoryStore) : Prop :=
  ∀ userId held, store.entitlements.get? userId = some held → held.expiresAt.Zoned

theorem revokeSubscription_owner (store : MemoryStore) (subscriptionId : Value) :
    (store.revokeSubscription subscriptionId).1 = store.ownerOf subscriptionId := by
  unfold revokeSubscription
  cases store.ownerOf subscriptionId <;> rfl

namespace Zoned

variable {store after : MemoryStore}

theorem of_entitlements (zoned : store.Zoned) (same : after.entitlements = store.entitlements) : after.Zoned := by
  unfold Zoned
  rw [same]
  exact zoned

theorem addEntitlement (zoned : store.Zoned) {entitlement : Entitlement} (expires : entitlement.expiresAt.Zoned) :
    (store.addEntitlement entitlement).Zoned := by
  intro userId held found
  change (store.entitlements.insert entitlement.userId entitlement).get? userId = some held at found
  rw [OrderedMap.get?_insert] at found
  split at found
  next =>
    cases found
    exact expires
  next => exact zoned userId held found

theorem revoke (zoned : store.Zoned) (userId : String) : (store.revoke userId).Zoned := by
  intro other held found
  by_cases same : other = userId
  · subst same
    rw [MemoryStore.revoke, OrderedMap.get?_erase_self] at found
    cases found
  · rw [MemoryStore.revoke, OrderedMap.get?_erase_of_ne _ same] at found
    exact zoned other held found

end Zoned

end MemoryStore

end PaidAccess
