import PaidAccess.Proofs.Remote.Accounts
import PaidAccess.Proofs.Credits.Effect
import PaidAccess.Proofs.Reconciliation.Activation
import PaidAccess.Proofs.Usage.Conservation
/-!
Counters in a table service. They are put in, found and spent from as in memory.
-/

namespace PaidAccess

open List (Forall₂)

theorem creditsClose_toTheMinute {finish : DateTime} (exact : finish.ToTheMinute) (now : DateTime) :
    (creditsClose now finish).ToTheMinute := by
  unfold creditsClose
  split
  next => exact exact
  next => exact DateTime.dayEnd_toTheMinute now.date

namespace UsageCounter

variable {counter : UsageCounter}

theorem Writable.stands_merge (writable : counter.Writable) (base : Fields) :
    Kind.counters.Stands (base.merge counter.row) counter :=
  ⟨writable.proper, writable.holds.merge counter.distinct_row base⟩

theorem Writable.agreeOn (writable : counter.Writable) {row : Fields} {held : UsageCounter}
    (stands : Kind.counters.Stands row held) :
    counter.row.agreeOn ["user_id", "feature_key", "cycle_started_at"] row = decide (held.key = counter.key) := by
  have agree := agreeOn_of_counters (⟨writable.proper, writable.holds⟩ : Kind.counters.Stands counter.row counter) stands
  rw [agree]
  exact decide_eq_decide.mpr eq_comm

theorem test_of_stands {row : Fields} (stands : Kind.counters.Stands row counter) (userId : String) (feature : FeatureKey) :
    (Clause.test (.eq "user_id" (.text userId)) row && Clause.test (.eq "feature_key" (.text feature.name)) row) =
      decide (counter.userId = userId ∧ counter.feature = feature) := by
  rw [stands.test_eq rfl (by decide), stands.test_eq rfl (by decide)]
  simp [FeatureKey.name_injective.eq_iff]

theorem test_key_of_stands {row : Fields} (stands : Kind.counters.Stands row counter) (userId : String) (feature : FeatureKey)
    {start : DateTime} (exact : start.ToTheMinute) :
    (Clause.test (.eq "user_id" (.text userId)) row && (Clause.test (.eq "feature_key" (.text feature.name)) row &&
      Clause.test (.eq "cycle_started_at" (.text start.iso)) row)) =
        decide (counter.key = ⟨userId, feature, start.moment⟩) := by
  rw [← Bool.and_assoc, test_of_stands stands, stands.test_eq_time rfl (by decide) exact]
  simp [key, Bool.and_assoc]

def windowClauses (userId : String) (feature : FeatureKey) (time : DateTime) : List Clause :=
  [.eq "user_id" (.text userId), .eq "feature_key" (.text feature.name), .lte "cycle_started_at" (.text time.iso),
    .gt "cycle_ends_at" (.text time.iso), .order "cycle_started_at" true, .limit 1]

theorem passes_of_stands (userId : String) (feature : FeatureKey) {time : DateTime} (exact : time.ToTheMinute) {row : Fields}
    {counter : UsageCounter} (stands : Kind.counters.Stands row counter) :
    Tables.passes (windowClauses userId feature time) row =
      decide ((counter.userId = userId ∧ counter.feature = feature) ∧ counter.Covers time) := by
  obtain ⟨-, start, finish⟩ := stands.proper
  have lte : Clause.test (.lte "cycle_started_at" (.text time.iso)) row = decide (counter.start.instant ≤ time.instant) := by
    change Cell.atMost (row.cell? "cycle_started_at") (Cell.of? "cycle_started_at" (.text time.iso)) = _
    rw [stands.cell? rfl, Cell.of?_time (by decide) exact.time_iso, Cell.atMost_time start exact.zoned]
  have gt : Clause.test (.gt "cycle_ends_at" (.text time.iso)) row = decide (time.instant < counter.finish.instant) := by
    change Cell.after (row.cell? "cycle_ends_at") (Cell.of? "cycle_ends_at" (.text time.iso)) = _
    rw [stands.cell? rfl, Cell.of?_time (by decide) exact.time_iso, Cell.after_time finish exact.zoned]
  have covers : decide (counter.Covers time) =
      (decide (counter.start.instant ≤ time.instant) && decide (time.instant < counter.finish.instant)) := Bool.decide_and _ _
  rw [Bool.decide_and, ← test_of_stands stands, covers]
  have others : Clause.test (.order "cycle_started_at" true) row = true ∧ Clause.test (.limit 1) row = true := ⟨rfl, rfl⟩
  simp only [windowClauses, Tables.passes, List.all_cons, List.all_nil, lte, gt, others, Bool.and_true, Bool.and_assoc]

def hasRoom (amount limit : Int) (counter : UsageCounter) : Bool :=
  match counter.used with
  | .whole used => used ≤ limit - amount
  | _ => false

def plus (amount : Int) (counter : UsageCounter) : UsageCounter :=
  match counter.used with
  | .whole used => { counter with used := .whole (used + amount) }
  | _ => counter

theorem plus_of_whole {used : Int} (whole : counter.used = .whole used) (amount : Int) :
    counter.plus amount = { counter with used := .whole (used + amount) } := by
  unfold plus
  rw [whole]

theorem hasRoom_of_stands {row : Fields} (stands : Kind.counters.Stands row counter) (amount limit : Int) :
    Tables.hasRoom (.int amount) (.int limit) row = counter.hasRoom amount limit := by
  obtain ⟨⟨used, -, whole⟩, -⟩ := stands.proper
  have shown : row.cell? "used_amount" = some (.plain counter.used.toValue) := stands.cell? rfl
  unfold Tables.hasRoom hasRoom
  rw [shown, whole]
  rfl

theorem writable_of_mem_zeroCounters {plan : Plan} {userId : String} {start finish close : DateTime}
    (starts : start.ToTheMinute) (ends : finish.ToTheMinute) (closes : close.ToTheMinute)
    (listed : counter ∈ plan.zeroCounters userId start finish close) : counter.Writable := by
  rcases Plan.mem_zeroCounters.mp listed with ⟨-, rfl⟩ | ⟨-, rfl⟩
  · exact ⟨⟨0, Int.le_refl _, rfl⟩, starts, closes⟩
  · exact ⟨⟨0, Int.le_refl _, rfl⟩, starts, ends⟩

end UsageCounter

namespace Tables

theorem given_counters (counters : List UsageCounter) :
    given (.list (counters.map (·.toValue DateTime.wire))) = counters.map UsageCounter.row := by
  unfold given
  induction counters with
  | nil => rfl
  | cons counter rest ih => exact congrArg (counter.row :: ·) ih

theorem conflict_usage : conflict RemoteStore.usageColumns = ["user_id", "feature_key", "cycle_started_at"] := by decide

theorem upsertAll_counters {map : OrderedMap UsageKey UsageCounter} (keyed : map.KeyedBy UsageCounter.key) {rows : List Fields}
    {counters : List UsageCounter} (stand : Forall₂ Kind.counters.Stands rows map.values)
    (writable : ∀ counter ∈ counters, counter.Writable) :
    Forall₂ Kind.counters.Stands (upsertAll ["user_id", "feature_key", "cycle_started_at"] false []
      (counters.map UsageCounter.row) rows).2 (map.enter UsageCounter.key counters).values := by
  induction counters generalizing map rows with
  | nil => exact stand
  | cons counter rest ih =>
    obtain ⟨here, later⟩ := List.forall_mem_cons.mp writable
    have put := (Kind.upsert keyed stand here.agreeOn (here.stands_merge []) fun _ => here.stands_merge _).2
    have same : ((map.get? counter.key).map fun _ => counter).getD counter = counter := by
      cases map.get? counter.key <;> rfl
    rw [same] at put
    exact ih (keyed.insert rfl) put later

def instantOf (column : String) (row : Fields) : Int :=
  match row.cell? column with
  | some (.time (.instant instant)) => instant
  | _ => 0

theorem cell?_start_of_stands {row : Fields} {counter : UsageCounter} (stands : Kind.counters.Stands row counter) :
    row.cell? "cycle_started_at" = some (.time (.instant counter.start.instant)) := by
  have shown : row.cell? "cycle_started_at" = some (.time counter.start.moment) := stands.cell? rfl
  rw [shown, stands.proper.2.1.moment]

theorem instantOf_start_of_stands {row : Fields} {counter : UsageCounter} (stands : Kind.counters.Stands row counter) :
    instantOf "cycle_started_at" row = counter.start.instant := by
  unfold instantOf
  rw [cell?_start_of_stands stands]

theorem head?_insertionSort {rows : List Fields} {column : String}
    (timed : ∀ row ∈ rows, row.cell? column = some (.time (.instant (instantOf column row)))) {top : Fields}
    (first : (rows.insertionSort (Precedes column true)).head? = some top) :
    top ∈ rows ∧ ∀ other ∈ rows, instantOf column other ≤ instantOf column top := by
  have ranks : (rows.insertionSort (Precedes column true)).map (instantOf column) =
      (rows.map (instantOf column)).insertionSort (· ≥ ·) := by
    refine List.map_insertionSort _ _ _ _ fun row listed other listedToo => ?_
    unfold Precedes
    rw [if_pos rfl, if_pos rfl, timed row listed, timed other listedToo]
    exact decide_eq_true_iff
  have sorted := List.pairwise_insertionSort (· ≥ ·) (rows.map (instantOf column))
  rw [← ranks, List.pairwise_map] at sorted
  have members : ∀ row, row ∈ rows.insertionSort (Precedes column true) ↔ row ∈ rows := fun _ => List.mem_insertionSort _
  generalize rows.insertionSort (Precedes column true) = arranged at first sorted members
  cases arranged with
  | nil => cases first
  | cons head rest =>
    obtain rfl : head = top := Option.some.inj first
    refine ⟨(members _).mp List.mem_cons_self, fun other listed => ?_⟩
    rcases List.mem_cons.mp ((members other).mpr listed) with rfl | later
    · exact Int.le_refl _
    · exact (List.pairwise_cons.mp sorted).1 other later

theorem select_window (userId : String) (feature : FeatureKey) (time : DateTime) (rows : List Fields) :
    select (UsageCounter.windowClauses userId feature time) rows =
      ((rows.filter (passes (UsageCounter.windowClauses userId feature time))).insertionSort
        (Precedes "cycle_started_at" true)).take 1 :=
  rfl

theorem stand_newest {rows : List Fields} {held : List UsageCounter} (stand : Forall₂ Kind.counters.Stands rows held) :
    (held = [] ∧ (rows.insertionSort (Precedes "cycle_started_at" true)).take 1 = []) ∨
      ∃ row counter, (rows.insertionSort (Precedes "cycle_started_at" true)).take 1 = [row] ∧
        Kind.counters.Stands row counter ∧ counter ∈ held ∧ ∀ other ∈ held, other.start.instant ≤ counter.start.instant := by
  have timed : ∀ row ∈ rows, row.cell? "cycle_started_at" = some (.time (.instant (instantOf "cycle_started_at" row))) := by
    intro row listed
    obtain ⟨counter, -, stands⟩ := exists_of_forall₂ stand listed
    rw [instantOf_start_of_stands stands, cell?_start_of_stands stands]
  cases sorted : rows.insertionSort (Precedes "cycle_started_at" true) with
  | nil =>
    have length := List.length_insertionSort (Precedes "cycle_started_at" true) rows
    rw [sorted] at length
    obtain rfl : rows = [] := List.length_eq_zero_iff.mp length.symm
    exact .inl ⟨List.forall₂_nil_left_iff.mp stand, rfl⟩
  | cons row rest =>
    have first : (rows.insertionSort (Precedes "cycle_started_at" true)).head? = some row := by rw [sorted]; rfl
    obtain ⟨listed, latest⟩ := head?_insertionSort timed first
    obtain ⟨counter, member, stands⟩ := exists_of_forall₂ stand listed
    refine .inr ⟨row, counter, rfl, stands, member, fun other also => ?_⟩
    have reversed : Forall₂ (fun counter row => Kind.counters.Stands row counter) held rows := stand.flip
    obtain ⟨row', there, stands'⟩ := exists_of_forall₂ reversed also
    have later := latest row' there
    rwa [instantOf_start_of_stands stands, instantOf_start_of_stands stands'] at later

end Tables

namespace MemoryStore

variable {store : MemoryStore}

theorem openCounter_eq (store : MemoryStore) (userId : String) (feature : FeatureKey) (start finish : DateTime) :
    (store.openCounter (.text userId) feature (some start) (some finish)).1 =
        .ok ((store.usage.get? ⟨userId, feature, start.moment⟩).getD ⟨userId, feature, .whole 0, start, finish⟩) ∧
      ∃ listed, (store.openCounter (.text userId) feature (some start) (some finish)).2 =
        { store with
          usage := store.usage.insertNew ⟨userId, feature, start.moment⟩ ⟨userId, feature, .whole 0, start, finish⟩
          listedStarts := listed } := by
  rw [openCounter_text]
  unfold OrderedMap.insertNew
  cases store.usage.get? ⟨userId, feature, start.moment⟩ with
  | some counter => exact ⟨rfl, _, rfl⟩
  | none => exact ⟨rfl, _, rfl⟩

def spentAt (store : MemoryStore) (key : UsageKey) (amount limit : Int) : Option UsageCounter :=
  ((store.usage.get? key).filter (UsageCounter.hasRoom amount limit)).map (UsageCounter.plus amount)

def afterSpend (store : MemoryStore) (key : UsageKey) (amount limit : Int) : MemoryStore :=
  { store with usage := store.usage.insert? key (store.spentAt key amount limit) }

theorem spend_eq {key : UsageKey} (counts : ∀ counter, store.usage.get? key = some counter → ∃ used, counter.used = .whole used)
    (amount limit : Int) : store.spend key (.int amount) (.int limit) =
      (.ok (store.spentAt key amount limit), store.afterSpend key amount limit) := by
  unfold afterSpend spentAt
  cases found : store.usage.get? key with
  | none =>
    unfold spend
    rw [found]
    rfl
  | some counter =>
    obtain ⟨used, whole⟩ := counts counter found
    have room : counter.hasRoom amount limit = Decidable.decide (used + amount ≤ limit) := by
      unfold UsageCounter.hasRoom
      rw [whole]
      exact decide_eq_decide.mpr (by omega)
    rw [spend_of_whole found whole, Option.filter_some, room]
    by_cases fits : used + amount ≤ limit
    · simp [fits, UsageCounter.plus_of_whole whole, OrderedMap.insert?]
    · simp [fits, OrderedMap.insert?]

end MemoryStore

def RemoteStore.spendParameters (userId : String) (feature : FeatureKey) (start : DateTime) (amount limit : Int) : Fields :=
  [("target_user_id", .text userId), ("target_feature_key", .text feature.name), ("target_cycle_started_at", .text start.iso),
    ("amount", .int amount), ("quota", .int limit)]

theorem Tables.callClauses_spend (userId : String) (feature : FeatureKey) (start : DateTime) (amount limit : Int) :
    callClauses (RemoteStore.spendParameters userId feature start amount limit) =
      [.eq "user_id" (.text userId), .eq "feature_key" (.text feature.name), .eq "cycle_started_at" (.text start.iso)] :=
  rfl

namespace TableService.Brings

variable {σ : Type} {service : TableService σ} {remote : RemoteStore} {now : DateTime} {store after : MemoryStore}

section

variable (lawful : service.Lawful remote)

include lawful

theorem putCounters (separate : remote.Separate) (keyed : store.Keyed) (keyedAfter : after.Keyed) (regular : after.Regular)
    {counters : List UsageCounter} (writable : ∀ counter ∈ counters, counter.Writable)
    (entered : after.usage = store.usage.enter UsageCounter.key counters) (users : after.users = store.users)
    (plans : after.plans = store.plans) (entitlements : after.entitlements = store.entitlements) :
    service.Brings remote now store (Dialogue.rows (.table remote.usage
      [.upsert (.list (counters.map (·.toValue DateTime.wire))) RemoteStore.usageColumns false])) (fun _ => True) after := by
  have readable : (Query.table remote.usage
      [.upsert (.list (counters.map (·.toValue DateTime.wire))) RemoteStore.usageColumns false]).isReadable = true := by
    have rows : (counters.map UsageCounter.row).all Fields.isReadable = true := by
      simpa using fun counter listed => (writable counter listed).isReadable
    simpa only [Query.isReadable, Clause.isReadable, List.all_cons, List.all_nil, Bool.and_true, Tables.given_counters] using rows
  refine rows lawful keyedAfter regular readable fun tables contents => ⟨_, _, rfl, ?_, fun _ _ => trivial⟩
  have defaults : Tables.defaults remote now remote.usage = [] := if_neg separate.usage_ne_entitlements
  have put := Tables.upsertAll_counters keyed.usage contents.usage writable
  rw [Tables.given_counters, Tables.conflict_usage, defaults]
  exact contents.set_usage separate (entered ▸ put) users plans entitlements

theorem putFirst (separate : remote.Separate) (keyed : store.Keyed) (keyedAfter : after.Keyed) (regular : after.Regular)
    {counter : UsageCounter} (writable : counter.Writable) (entered : after.usage = store.usage.insertNew counter.key counter)
    (users : after.users = store.users) (plans : after.plans = store.plans) (entitlements : after.entitlements = store.entitlements) :
    service.Brings remote now store (Dialogue.rows (.table remote.usage
      [.upsert (counter.toValue DateTime.wire) RemoteStore.usageColumns true])) (fun _ => True) after := by
  have readable : (Query.table remote.usage
      [.upsert (counter.toValue DateTime.wire) RemoteStore.usageColumns true]).isReadable = true := by
    simp [Query.isReadable, Clause.isReadable, UsageCounter.toValue_wire, Tables.given, writable.isReadable]
  refine rows lawful keyedAfter regular readable fun tables contents => ⟨_, _, Tables.run_upsert .., ?_, fun _ _ => trivial⟩
  have defaults : Tables.defaults remote now remote.usage = [] := if_neg separate.usage_ne_entitlements
  have put := Kind.upsert_keep keyed.usage contents.usage writable.agreeOn (writable.stands_merge [])
  rw [Tables.conflict_usage, defaults]
  exact contents.set_usage separate (entered ▸ put) users plans entitlements

theorem findCounter (keyed : store.Keyed) (regular : store.Regular) (userId : String) (feature : FeatureKey) {start : DateTime}
    (starts : start.ToTheMinute) :
    service.Brings remote now store (Dialogue.rows (.table remote.usage [.select, .eq "user_id" (.text userId),
        .eq "feature_key" (.text feature.name), .eq "cycle_started_at" (.text start.iso), .limit 1]))
      (fun answers => Option.Rel Kind.counters.Shown answers.head? (store.usage.get? ⟨userId, feature, start.moment⟩)) store := by
  have timed := Cell.of?_time (show "cycle_started_at" ∈ Cell.timeColumns by decide) starts.time_iso
  have readable : (Query.table remote.usage [.select, .eq "user_id" (.text userId), .eq "feature_key" (.text feature.name),
      .eq "cycle_started_at" (.text start.iso), .limit 1]).isReadable = true := by
    simp [Query.isReadable, Clause.isReadable, timed, Cell.of?_plain, Cell.timeColumns]
  have decides : ∀ {row counter}, Kind.counters.Stands row counter →
      Tables.passes [.eq "user_id" (.text userId), .eq "feature_key" (.text feature.name), .eq "cycle_started_at" (.text start.iso),
        .limit 1] row = decide (counter.key = ⟨userId, feature, start.moment⟩) := by
    intro row counter stands
    rw [← UsageCounter.test_key_of_stands stands userId feature starts]
    simp [Tables.passes, Clause.test]
  refine (select lawful keyed regular readable fun tables contents =>
    List.forall₂_take 1 (forall₂_filter contents.usage decides)).imp fun answers shown => ?_
  have head := rel_head?_of_take shown
  rwa [keyed.usage.find?_values] at head

theorem callSpend (separate : remote.Separate) (keyed : store.Keyed) (userId : String) (feature : FeatureKey) {start : DateTime}
    (starts : start.ToTheMinute) {amount limit : Int}
    (counts : ∀ counter, store.usage.get? ⟨userId, feature, start.moment⟩ = some counter → ∃ used, counter.used = .whole used)
    (keyedAfter : (store.afterSpend ⟨userId, feature, start.moment⟩ amount limit).Keyed)
    (regular : (store.afterSpend ⟨userId, feature, start.moment⟩ amount limit).Regular) :
    service.Brings remote now store (Dialogue.rows (.call remote.spendProcedure
      (RemoteStore.spendParameters userId feature start amount limit)))
      (fun answers => Forall₂ Kind.counters.Shown answers (store.spentAt ⟨userId, feature, start.moment⟩ amount limit).toList)
      (store.afterSpend ⟨userId, feature, start.moment⟩ amount limit) := by
  have timed := Cell.of?_time (show "cycle_started_at" ∈ Cell.timeColumns by decide) starts.time_iso
  have readable : (Query.call remote.spendProcedure
      (RemoteStore.spendParameters userId feature start amount limit)).isReadable = true := by
    simp [Query.isReadable, Tables.callClauses_spend, Clause.isReadable, timed, Cell.of?_plain, Cell.timeColumns]
  have decides : ∀ {row counter}, Kind.counters.Stands row counter →
      (Tables.passes (Tables.callClauses (RemoteStore.spendParameters userId feature start amount limit)) row &&
        Tables.hasRoom (.int amount) (.int limit) row) =
          (decide (counter.key = ⟨userId, feature, start.moment⟩) && counter.hasRoom amount limit) := by
    intro row counter stands
    rw [← UsageCounter.test_key_of_stands stands userId feature starts, UsageCounter.hasRoom_of_stands stands]
    simp only [Tables.callClauses_spend, Tables.passes, List.all_cons, List.all_nil, Bool.and_true]
  have edits : ∀ {row counter}, Kind.counters.Stands row counter →
      store.usage.get? ⟨userId, feature, start.moment⟩ = some counter → counter.hasRoom amount limit = true →
        Kind.counters.Stands (Tables.spent (.int amount) row) (counter.plus amount) := by
    intro row counter stands found room
    obtain ⟨used, whole⟩ := counts counter found
    have changed : store.spentAt ⟨userId, feature, start.moment⟩ amount limit = some (counter.plus amount) := by
      simp [MemoryStore.spentAt, found, room]
    rw [MemoryStore.afterSpend, changed] at regular
    -- The counter that is left counts: no amount below zero is written.
    obtain ⟨left, counted, now⟩ := regular.counts _
      (List.mem_map_of_mem (OrderedMap.mem_of_get? (OrderedMap.get?_insert_self ..)))
    rw [UsageCounter.plus_of_whole whole] at now ⊢
    cases now
    exact UsageCounter.stands_spent stands whole counted
  refine rows lawful keyedAfter regular readable fun tables contents => ?_
  obtain ⟨answered, left⟩ := Kind.change_at (UsageCounter.hasRoom amount limit) keyed.usage contents.usage decides edits
  exact ⟨_, _, (if_neg separate.procedures.symm).trans (if_pos rfl), contents.set_usage separate left rfl rfl rfl,
    fun answers shown => forall₂_comp shown answered .of_stands⟩

theorem selectNewest (keyed : store.Keyed) (regular : store.Regular) (userId : String) (feature : FeatureKey) {time : DateTime}
    (exact : time.ToTheMinute)
    (windows : ∀ counter ∈ store.countersOf (.text userId) feature, counter.start.Zoned ∧ counter.finish.Zoned)
    {expected : Option UsageCounter} (searched : store.findActiveUsage (.text userId) feature (some time) = .ok expected) :
    service.Brings remote now store (Dialogue.rows (.table remote.usage (.select :: UsageCounter.windowClauses userId feature time)))
      (fun answers => Forall₂ Kind.counters.Shown answers expected.toList) store := by
  have starts := Cell.of?_time (show "cycle_started_at" ∈ Cell.timeColumns by decide) exact.time_iso
  have ends := Cell.of?_time (show "cycle_ends_at" ∈ Cell.timeColumns by decide) exact.time_iso
  have readable : (Query.table remote.usage
      (.select :: UsageCounter.windowClauses userId feature time)).isReadable = true := by
    simp [UsageCounter.windowClauses, Query.isReadable, Clause.isReadable, starts, ends, Cell.of?_plain, Cell.timeColumns]
  have found : ∀ counter, expected = some counter ↔ counter ∈ store.countersOf (.text userId) feature ∧ counter.Covers time ∧
      ∀ other ∈ store.countersOf (.text userId) feature, other.Covers time → other.start.instant ≤ counter.start.instant := by
    intro counter
    rw [← MemoryStore.findActiveUsage_eq_some_iff keyed exact.zoned windows, searched, Except.ok.injEq]
  have members : ∀ counter, (counter ∈ store.usage.values.filter fun counter =>
      decide ((counter.userId = userId ∧ counter.feature = feature) ∧ counter.Covers time)) ↔
        counter ∈ store.countersOf (.text userId) feature ∧ counter.Covers time := by
    intro counter
    rw [List.mem_filter, MemoryStore.mem_countersOf keyed, keyed.usage.mem_values_iff, decide_eq_true_eq]
    exact and_assoc.symm
  refine select lawful keyed regular readable fun tables contents => ?_
  have filtered := forall₂_filter contents.usage (UsageCounter.passes_of_stands userId feature exact)
  rcases Tables.stand_newest filtered with ⟨none, arranged⟩ | ⟨row, counter, arranged, stands, member, latest⟩
  · have absent : expected = Option.none := by
      refine Option.eq_none_iff_forall_ne_some.mpr fun counter here => ?_
      obtain ⟨listed, covers, -⟩ := (found counter).mp here
      exact List.not_mem_nil (none ▸ (members counter).mpr ⟨listed, covers⟩)
    rw [absent]
    exact (Tables.select_window ..).trans arranged ▸ .nil
  · obtain ⟨listed, covers⟩ := (members counter).mp member
    obtain rfl : expected = some counter :=
      (found counter).mpr ⟨listed, covers, fun other there also => latest other ((members other).mpr ⟨there, also⟩)⟩
    exact (Tables.select_window ..).trans arranged ▸ .cons stands .nil

end

section

variable (lawful : service.Lawful remote) (separate : remote.Separate) (keyed : store.Keyed)

include lawful separate keyed

theorem resetUsage (userId : String) (plan : Plan) {start finish : DateTime} (starts : start.ToTheMinute)
    (ends : finish.ToTheMinute) (regular : (store.resetUsage now (.text userId) plan (some start) (some finish)).2.Regular) :
    service.Brings remote now store (remote.resetUsage now (.text userId) plan (some start) (some finish))
      (fun found => ∃ expected, (store.resetUsage now (.text userId) plan (some start) (some finish)).1 = .ok expected ∧
        Forall₂ Kind.counters.Same found expected)
      (store.resetUsage now (.text userId) plan (some start) (some finish)).2 := by
  have fresh := Plan.freshCounters_of_zoned plan userId start ends.zoned now
  have writable : ∀ counter ∈ plan.zeroCounters userId start finish (creditsClose now finish), counter.Writable :=
    fun counter listed => UsageCounter.writable_of_mem_zeroCounters starts ends (creditsClose_toTheMinute ends now) listed
  generalize plan.zeroCounters userId start finish (creditsClose now finish) = counters at fresh writable
  have after := keyed.resetUsage now (.text userId) plan (some start) (some finish)
  obtain ⟨listed, resets, reset⟩ := store.resetUsage_of_fresh fresh
  rw [reset] at regular after ⊢
  have same : Forall₂ Kind.counters.Same counters counters := List.forall₂_same.mpr fun _ _ => rfl
  unfold RemoteStore.resetUsage
  refine bind_lift fresh ?_
  split
  next none =>
    rw [List.isEmpty_iff.mp none] at same ⊢
    exact fun state contents => ⟨[], state, rfl, ⟨[], rfl, .nil⟩, ⟨contents.users, contents.plans, contents.entitlements, contents.usage⟩⟩
  next =>
    refine bind (putCounters lawful separate keyed after regular writable rfl rfl rfl rfl) fun _ _ => ?_
    exact pure ⟨counters, rfl, same⟩

theorem openCounter (userId : String) (feature : FeatureKey) {start finish : DateTime} (starts : start.ToTheMinute)
    (ends : finish.ToTheMinute)
    (regular : (store.openCounter (.text userId) feature (some start) (some finish)).2.Regular) :
    service.Brings remote now store (remote.openCounter (.text userId) feature (some start) (some finish))
      (fun found => ∃ expected, (store.openCounter (.text userId) feature (some start) (some finish)).1 = .ok expected ∧
        Kind.counters.Same found expected)
      (store.openCounter (.text userId) feature (some start) (some finish)).2 := by
  have after := keyed.openCounter (.text userId) feature (some start) (some finish)
  obtain ⟨given, listed, opened⟩ := store.openCounter_eq userId feature start finish
  rw [opened] at regular after
  rw [opened, given]
  generalize made : (⟨userId, feature, .whole 0, start, finish⟩ : UsageCounter) = counter at *
  have writable : counter.Writable := made ▸ ⟨⟨0, Int.le_refl _, rfl⟩, starts, ends⟩
  have key : counter.key = ⟨userId, feature, start.moment⟩ := made ▸ rfl
  have begins : counter.start = start := made ▸ rfl
  have opens : (UsageCounter.opened (.text userId) feature (some start) (some finish)).outcome = .ok counter := made ▸ rfl
  unfold RemoteStore.openCounter
  refine bind_lift opens (bind (putFirst lawful separate keyed after regular writable (by rw [key]) rfl rfl rfl) fun _ _ => ?_)
  rw [begins]
  refine bind (findCounter lawful after regular userId feature starts) fun answers shown => ?_
  rw [store.usage.get?_insertNew_self ⟨userId, feature, start.moment⟩ counter] at shown
  refine bind (readRow shown) fun found same => ?_
  cases same with
  | some same => exact pure ⟨_, rfl, same⟩

theorem spend (userId : String) (feature : FeatureKey) {start : DateTime} (starts : start.ToTheMinute) (amount limit : Int)
    (before : store.Regular)
    (regular : (store.spend ⟨userId, feature, start.moment⟩ (.int amount) (.int limit)).2.Regular) :
    service.Brings remote now store (remote.spend (.text userId) feature (some start) (.int amount) (.int limit))
      (fun found => ∃ expected, (store.spend ⟨userId, feature, start.moment⟩ (.int amount) (.int limit)).1 = .ok expected ∧
        Option.Rel Kind.counters.Same found expected)
      (store.spend ⟨userId, feature, start.moment⟩ (.int amount) (.int limit)).2 := by
  have counts : ∀ counter, store.usage.get? ⟨userId, feature, start.moment⟩ = some counter →
      ∃ used, counter.used = .whole used := by
    intro counter found
    obtain ⟨used, -, whole⟩ := before.counts counter (List.mem_map_of_mem (OrderedMap.mem_of_get? found))
    exact ⟨used, whole⟩
  have after := keyed.spend ⟨userId, feature, start.moment⟩ (.int amount) (.int limit)
  rw [MemoryStore.spend_eq counts] at regular after ⊢
  refine bind (stamp start) ?_
  rintro _ rfl
  refine bind (callSpend lawful separate keyed userId feature starts counts after regular) fun answers shown => ?_
  have head := rel_head? shown
  rw [Option.head?_toList] at head
  exact (readRow head).imp fun found same => ⟨_, rfl, same⟩

omit separate in
theorem findActiveUsage (userId : String) (feature : FeatureKey) {time : DateTime} (exact : time.ToTheMinute)
    (regular : store.Regular) (proper : ∀ counter ∈ store.usage.values, counter.Proper) :
    service.Brings remote now store (remote.findActiveUsage (.text userId) feature (some time))
      (fun found => ∃ expected, store.findActiveUsage (.text userId) feature (some time) = .ok expected ∧
        Option.Rel Kind.counters.Same found expected) store := by
  have windows : ∀ counter ∈ store.countersOf (.text userId) feature, counter.start.Zoned ∧ counter.finish.Zoned := by
    intro counter listed
    obtain ⟨there, -, -⟩ := (MemoryStore.mem_countersOf keyed).mp listed
    exact (proper counter (keyed.usage.mem_values_iff.mpr there)).2
  obtain ⟨expected, searched, -, -⟩ := MemoryStore.findActiveUsage_of_zoned exact.zoned windows
  refine bind (stamp time) ?_
  rintro _ rfl
  refine bind (selectNewest lawful keyed regular userId feature exact windows searched) fun answers shown => ?_
  have head := rel_head? shown
  rw [Option.head?_toList] at head
  exact (readRow head).imp fun found same => ⟨_, searched, same⟩

end

end TableService.Brings

end PaidAccess
