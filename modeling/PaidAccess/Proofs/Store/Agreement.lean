import Mathlib.Data.List.Nodup
import PaidAccess.Proofs.Credits.Effect
import PaidAccess.Proofs.Store.Isolation
/-!
Stores that agree on one user: what belongs to anybody else may differ, and so may the order in which things were put
in. A question about that user has the same answer in both, and a spend by that user does the same to both.
-/

namespace PaidAccess

def Moment.micros : Moment → Int
  | .instant micros | .wall micros => micros

namespace DateTime

variable {first second time : DateTime} {earlier earlierToo : Bool}

theorem mismatch_of_before {failure : Failure} (fails : first.before second = .error failure) : failure = .mismatch := by
  unfold before at fails
  split at fails <;> cases fails
  rfl

theorem mismatch_of_atMost {failure : Failure} (fails : first.atMost second = .error failure) : failure = .mismatch := by
  unfold atMost at fails
  split at fails <;> cases fails
  rfl

theorem before_of_atMost (ordered : first.atMost time = .ok earlier) (orderedToo : second.atMost time = .ok earlierToo) :
    first.before second = .ok (decide (first.moment.micros < second.moment.micros)) := by
  unfold atMost compare? at ordered orderedToo
  unfold before compare?
  cases here : first.moment <;> cases there : second.moment <;> cases bound : time.moment <;>
    simp_all [Moment.micros, ← Int.compare_eq_lt, Bool.beq_eq_decide_eq]

theorem moment_eq_of_atMost (ordered : first.atMost time = .ok earlier)
    (orderedToo : second.atMost time = .ok earlierToo) (same : first.moment.micros = second.moment.micros) :
    first.moment = second.moment := by
  unfold atMost compare? at ordered orderedToo
  cases here : first.moment <;> cases there : second.moment <;> cases bound : time.moment <;>
    simp_all [Moment.micros]

end DateTime

namespace Outcome

variable {α : Type} {test : α → Outcome Bool} {failure : Failure}

theorem filter_of_error (only : ∀ item other, test item = .error other → other = failure) {items : List α} {item : α}
    (member : item ∈ items) (fails : test item = .error failure) : Outcome.filter test items = .error failure := by
  induction items with
  | nil => cases member
  | cons head rest ih =>
    unfold Outcome.filter
    cases tested : test head with
    | error other =>
      rw [only head other tested]
      rfl
    | ok keeps =>
      rcases List.mem_cons.mp member with rfl | later
      · cases tested.symm.trans fails
      · rw [ih later]
        rfl

theorem filter_perm (only : ∀ item other, test item = .error other → other = failure) {first second : List α}
    (perm : first.Perm second) :
    (Outcome.filter test first = .error failure ∧ Outcome.filter test second = .error failure) ∨
      ∃ kept keptToo, Outcome.filter test first = .ok kept ∧ Outcome.filter test second = .ok keptToo ∧
        kept.Perm keptToo ∧ ∀ item ∈ kept, test item = .ok true := by
  by_cases failing : ∃ item ∈ first, ∃ other, test item = .error other
  · obtain ⟨item, member, other, fails⟩ := failing
    rw [only item other fails] at fails
    exact .inl ⟨filter_of_error only member fails, filter_of_error only (perm.mem_iff.mp member) fails⟩
  · have decided : ∀ item ∈ first, test item = .ok ((test item).toOption.getD false) := by
      intro item member
      cases tested : test item with
      | error other => exact absurd ⟨item, member, other, tested⟩ failing
      | ok keeps => rfl
    refine .inr ⟨_, _, filter_of_forall decided,
      filter_of_forall fun item member => decided item (perm.mem_iff.mpr member), perm.filter _, fun item kept => ?_⟩
    obtain ⟨member, passes⟩ := List.mem_filter.mp kept
    rw [decided item member, passes]

end Outcome

namespace MemoryStore

theorem mismatch_of_holds {time : Option DateTime} {counter : UsageCounter} {failure : Failure}
    (fails : holds time counter = .error failure) : failure = .mismatch := by
  unfold holds at fails
  cases time with
  | none =>
    cases fails
    rfl
  | some time =>
    dsimp only at fails
    cases begun : counter.start.atMost time with
    | error other =>
      rw [begun] at fails
      cases fails
      exact DateTime.mismatch_of_atMost begun
    | ok started =>
      rw [begun] at fails
      cases started with
      | true => exact DateTime.mismatch_of_before fails
      | false => cases fails

theorem atMost_of_holds {time : DateTime} {counter : UsageCounter} (covers : holds (some time) counter = .ok true) :
    counter.start.atMost time = .ok true := by
  unfold holds at covers
  dsimp only at covers
  obtain ⟨started, begun, covers⟩ := Outcome.bind_eq_ok_iff.mp covers
  cases started with
  | true => exact begun
  | false => cases covers

theorem Keyed.nodup_countersOf {store : MemoryStore} (keyed : store.Keyed) (userId : Value) (feature : FeatureKey) :
    (store.countersOf userId feature).Nodup := by
  have distinct : (store.usage.entries.map fun entry => entry.2.key).Nodup := by
    have same : store.usage.entries.map (fun entry => entry.2.key) = store.usage.keys :=
      List.map_congr_left fun entry member => keyed.usage.named entry member
    rw [same]
    exact keyed.usage.distinct
  refine List.Nodup.of_map UsageCounter.key ?_
  rw [countersOf, List.map_map]
  exact distinct.sublist (List.filter_sublist.map _)

/-- Where no two counters have the same rank, their order does not decide which of them is found. -/
theorem newest_perm {rank : UsageCounter → Int} {first second : List UsageCounter} (perm : first.Perm second)
    (ranked : ∀ counter ∈ first, ∀ other ∈ first,
      counter.start.before other.start = .ok (decide (rank counter < rank other)))
    (distinct : ∀ counter ∈ first, ∀ other ∈ first, rank counter = rank other → counter = other) :
    newest second = newest first := by
  obtain ⟨found, searched, empty, last⟩ := newest_of_ranked ranked
  obtain ⟨foundToo, searchedToo, emptyToo, lastToo⟩ := newest_of_ranked fun counter member other also =>
    ranked counter (perm.mem_iff.mpr member) other (perm.mem_iff.mpr also)
  rw [searched, searchedToo]
  cases found with
  | none =>
    cases foundToo with
    | none => rfl
    | some counter =>
      have there := perm.mem_iff.mpr (lastToo counter rfl).1
      rw [empty rfl] at there
      cases there
  | some counter =>
    obtain ⟨member, latest⟩ := last counter rfl
    cases foundToo with
    | none =>
      rw [emptyToo rfl] at perm
      exact absurd (perm.mem_iff.mp member) List.not_mem_nil
    | some other =>
      obtain ⟨there, latestToo⟩ := lastToo other rfl
      have also := perm.mem_iff.mpr there
      have together := Int.le_antisymm (latest other also) (latestToo counter (perm.mem_iff.mp member))
      rw [distinct other also counter member together]

/-- Whether two stores hold the same of a user and sell the same plans. -/
structure AgreeOn (userId : String) (first second : MemoryStore) : Prop where
  keyed : first.Keyed
  keyedToo : second.Keyed
  plans : second.plans = first.plans
  user : second.users.get? userId = first.users.get? userId
  entitlement : second.entitlements.get? userId = first.entitlements.get? userId
  usage : ∀ key, key.userId = userId → second.usage.get? key = first.usage.get? key

namespace AgreeOn

variable {userId : String} {first second : MemoryStore}

theorem countersOf_perm (agree : AgreeOn userId first second) (feature : FeatureKey) :
    (first.countersOf (.text userId) feature).Perm (second.countersOf (.text userId) feature) := by
  refine (List.perm_ext_iff_of_nodup (agree.keyed.nodup_countersOf _ _) (agree.keyedToo.nodup_countersOf _ _)).mpr
    fun counter => ?_
  rw [mem_countersOf agree.keyed, mem_countersOf agree.keyedToo]
  constructor
  · rintro ⟨found, rfl, rfl⟩
    exact ⟨(agree.usage counter.key rfl).trans found, rfl, rfl⟩
  · rintro ⟨found, rfl, rfl⟩
    exact ⟨(agree.usage counter.key rfl).symm.trans found, rfl, rfl⟩

theorem findActiveUsage (agree : AgreeOn userId first second) (feature : FeatureKey) (time : DateTime) :
    second.findActiveUsage (.text userId) feature (some time) =
      first.findActiveUsage (.text userId) feature (some time) := by
  unfold MemoryStore.findActiveUsage
  rcases Outcome.filter_perm (fun _ _ => mismatch_of_holds) (agree.countersOf_perm feature) with
    ⟨fails, failsToo⟩ | ⟨kept, keptToo, filtered, filteredToo, perm, covers⟩
  · rw [fails, failsToo]
  · rw [filtered, filteredToo]
    have begun : ∀ counter ∈ kept, counter.start.atMost time = .ok true := fun counter member =>
      atMost_of_holds (covers counter member)
    have ranked : ∀ counter ∈ kept, ∀ other ∈ kept, counter.start.before other.start =
        .ok (decide (counter.start.moment.micros < other.start.moment.micros)) := fun counter member other also =>
      DateTime.before_of_atMost (begun counter member) (begun other also)
    refine newest_perm perm ranked fun counter member other also together => ?_
    obtain ⟨here, user, about⟩ := (mem_countersOf agree.keyed).mp (Outcome.mem_of_filter filtered member)
    obtain ⟨there, userToo, aboutToo⟩ := (mem_countersOf agree.keyed).mp (Outcome.mem_of_filter filtered also)
    have same : counter.key = other.key := by
      unfold UsageCounter.key
      rw [user, userToo, about, aboutToo,
        DateTime.moment_eq_of_atMost (begun counter member) (begun other also) together]
    rw [same, there] at here
    exact (Option.some.inj here).symm

theorem addCounter (agree : AgreeOn userId first second) (counter : UsageCounter) :
    AgreeOn userId (first.addCounter counter) (second.addCounter counter) where
  keyed := agree.keyed.addCounter counter
  keyedToo := agree.keyedToo.addCounter counter
  plans := agree.plans
  user := agree.user
  entitlement := agree.entitlement
  usage key owner := by
    unfold MemoryStore.addCounter
    rw [OrderedMap.get?_insert, OrderedMap.get?_insert, agree.usage key owner]

theorem openCounter (agree : AgreeOn userId first second) (feature : FeatureKey) (start finish : DateTime) :
    (second.openCounter (.text userId) feature (some start) (some finish)).1 =
        (first.openCounter (.text userId) feature (some start) (some finish)).1 ∧
      AgreeOn userId (first.openCounter (.text userId) feature (some start) (some finish)).2
        (second.openCounter (.text userId) feature (some start) (some finish)).2 := by
  rw [openCounter_text, openCounter_text, agree.usage ⟨userId, feature, start.moment⟩ rfl]
  cases first.usage.get? ⟨userId, feature, start.moment⟩ with
  | some counter => exact ⟨rfl, agree⟩
  | none => exact ⟨rfl, agree.addCounter _⟩

theorem spend (agree : AgreeOn userId first second) {key : UsageKey} (owner : key.userId = userId)
    (amount limit : Value) :
    (second.spend key amount limit).1 = (first.spend key amount limit).1 ∧
      AgreeOn userId (first.spend key amount limit).2 (second.spend key amount limit).2 := by
  have found := agree.usage key owner
  have kept : ∀ counter updated, first.usage.get? key = some counter → updated.key = counter.key →
      AgreeOn userId { first with usage := first.usage.insert key updated }
        { second with usage := second.usage.insert key updated } := by
    intro counter updated here same
    refine ⟨agree.keyed.replaceCounter here same, agree.keyedToo.replaceCounter (found.trans here) same, agree.plans,
      agree.user, agree.entitlement, fun other owned => ?_⟩
    dsimp only
    rw [OrderedMap.get?_insert, OrderedMap.get?_insert, agree.usage other owned]
  unfold MemoryStore.spend
  rw [found]
  cases here : first.usage.get? key with
  | none => exact ⟨rfl, agree⟩
  | some counter =>
    dsimp only
    split
    next =>
      split
      next updated spent => exact ⟨rfl, kept counter updated here (key_of_spentFrom spent)⟩
      next => exact ⟨rfl, agree⟩
    next => exact ⟨rfl, agree⟩

end AgreeOn

structure OnlyCountersOf (userId : String) (before after : MemoryStore) : Prop where
  counters : OnlyCounters before after
  others : SameButFor (some userId) before after

namespace OnlyCountersOf

variable {userId : String} {store between after : MemoryStore}

theorem refl (userId : String) (store : MemoryStore) : OnlyCountersOf userId store store :=
  ⟨⟨rfl, rfl, rfl, rfl⟩, .refl _ store⟩

theorem trans (before : OnlyCountersOf userId store between) (later : OnlyCountersOf userId between after) :
    OnlyCountersOf userId store after where
  counters := ⟨later.counters.users.trans before.counters.users, later.counters.plans.trans before.counters.plans,
    later.counters.entitlements.trans before.counters.entitlements, later.counters.resets.trans before.counters.resets⟩
  others := before.others.trans later.others

theorem openCounter (store : MemoryStore) (userId : String) (feature : FeatureKey) (start finish : DateTime) :
    OnlyCountersOf userId store (store.openCounter (.text userId) feature (some start) (some finish)).2 := by
  refine ⟨?_, .openCounter store (.text userId) feature (some start) (some finish)⟩
  rw [openCounter_text]
  split <;> exact ⟨rfl, rfl, rfl, rfl⟩

theorem spend (keyed : store.Keyed) {key : UsageKey} (owner : key.userId = userId) (amount limit : Value) :
    OnlyCountersOf userId store (store.spend key amount limit).2 :=
  ⟨(spend_counting keyed key amount limit).onlyCounters, owner ▸ .spend store key amount limit⟩

end OnlyCountersOf

end MemoryStore

end PaidAccess
