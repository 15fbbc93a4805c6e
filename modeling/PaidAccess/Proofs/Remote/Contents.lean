import PaidAccess.Proofs.Store.Search
import PaidAccess.Proofs.Remote.Rows
/-!
Tables that hold what a store in memory has. The rows of a table hold the things of the store one by one and in the same order.
A program of queries is followed from what the tables hold when it starts to what they hold when it ends.
-/

namespace PaidAccess

open List (Forall₂)

section

variable {α β γ : Type} {R : α → β → Prop} {as : List α} {bs : List β}

theorem forall₂_comp {S : γ → α → Prop} {T : γ → β → Prop} {cs : List γ} (first : Forall₂ S cs as) (second : Forall₂ R as bs)
    (both : ∀ {c a b}, S c a → R a b → T c b) : Forall₂ T cs bs := by
  induction first generalizing bs with
  | nil => cases second; exact .nil
  | cons here _ ih =>
    cases second with
    | cons there rest => exact .cons (both here there) (ih rest)

theorem exists_of_forall₂ (related : Forall₂ R as bs) {a : α} (member : a ∈ as) : ∃ b ∈ bs, R a b := by
  induction related with
  | nil => cases member
  | cons here _ ih =>
    rcases List.mem_cons.mp member with rfl | later
    · exact ⟨_, List.mem_cons_self, here⟩
    · obtain ⟨b, listed, found⟩ := ih later
      exact ⟨b, List.mem_cons_of_mem _ listed, found⟩

theorem pairwise_of_forall₂ {S : β → β → Prop} {T : α → α → Prop} (related : Forall₂ R as bs) (pairwise : bs.Pairwise S)
    (reflects : ∀ {a b other held}, R a b → R other held → S b held → T a other) : as.Pairwise T := by
  induction related with
  | nil => exact .nil
  | cons here rest ih =>
    obtain ⟨first, others⟩ := List.pairwise_cons.mp pairwise
    refine List.pairwise_cons.mpr ⟨fun other member => ?_, ih others⟩
    obtain ⟨held, listed, there⟩ := exists_of_forall₂ rest member
    exact reflects here there (first held listed)

theorem forall₂_filter (related : Forall₂ R as bs) {test : α → Bool} {passes : β → Bool}
    (agree : ∀ {a b}, R a b → test a = passes b) : Forall₂ R (as.filter test) (bs.filter passes) :=
  List.rel_filter (fun _ _ here => Bool.eq_iff_iff.mp (agree here)) related

theorem rel_head? (related : Forall₂ R as bs) : Option.Rel R as.head? bs.head? := by
  cases related with
  | nil => exact .none
  | cons here _ => exact .some here

end

def User.recordedCustomer (user : User) : Option Value := if user.customerId = .null then none else some user.customerId

namespace MemoryStore

/-- Whether what is unique in the tables is unique in a store, beyond the names that its tables are kept by. -/
structure Unique (store : MemoryStore) : Prop where
  customers : store.users.Apart User.recordedCustomer
  plans : store.plans.Apart fun plan => some plan.id
  subscriptions : store.entitlements.Apart fun entitlement => some entitlement.subscriptionId

structure Regular (store : MemoryStore) : Prop extends store.Unique where
  counts : ∀ counter ∈ store.usage.values, counter.Counts

theorem Unique.of_entries {store : MemoryStore}
    (customers : ∀ entry ∈ store.users.entries, ∀ other ∈ store.users.entries, entry.2.recordedCustomer.isSome = true →
      entry.2.recordedCustomer = other.2.recordedCustomer → entry.1 = other.1)
    (plans : ∀ entry ∈ store.plans.entries, ∀ other ∈ store.plans.entries, entry.2.id = other.2.id → entry.1 = other.1)
    (subscriptions : ∀ entry ∈ store.entitlements.entries, ∀ other ∈ store.entitlements.entries,
      entry.2.subscriptionId = other.2.subscriptionId → entry.1 = other.1) : store.Unique :=
  ⟨.of_entries customers, .of_entries fun entry listed other there _ same => plans entry listed other there (Option.some.inj same),
    .of_entries fun entry listed other there _ same => subscriptions entry listed other there (Option.some.inj same)⟩

end MemoryStore

/-- Whether tables hold what a store has. Resets have no table. -/
structure Contents (remote : RemoteStore) (tables : Tables) (store : MemoryStore) : Prop where
  users : Forall₂ Kind.users.Stands (tables remote.users) store.users.values
  plans : Forall₂ Kind.plans.Stands (tables remote.plans) store.plans.values
  entitlements : Forall₂ Kind.entitlements.Stands (tables remote.entitlements) store.entitlements.values
  usage : Forall₂ Kind.counters.Stands (tables remote.usage) store.usage.values

namespace Fields

variable {first second : Fields} {column : String} {here there : Cell}

theorem agreeOn_single (shown : first.cell? column = some here) (shownToo : second.cell? column = some there) :
    first.agreeOn [column] second = decide (here = there ∧ here ≠ .plain .null) := by
  simp [agreeOn, Cell.agree, shown, shownToo]

theorem agreeOn_cons (column : String) (columns : List String) (first second : Fields) :
    first.agreeOn (column :: columns) second = (first.agreeOn [column] second && first.agreeOn columns second) := by
  simp [agreeOn]

end Fields

theorem FeatureKey.name_injective : Function.Injective FeatureKey.name := by
  intro first second same
  cases first <;> cases second <;> first | rfl | exact absurd same (by decide)

theorem agreeOn_of_counters {first second : Fields} {counter other : UsageCounter} (here : Kind.counters.Stands first counter)
    (there : Kind.counters.Stands second other) :
    first.agreeOn ["user_id", "feature_key", "cycle_started_at"] second = decide (counter.key = other.key) := by
  have named : ∀ {row counter}, Kind.counters.Stands row counter →
      row.cell? "user_id" = some (.plain (.text counter.userId)) ∧
        row.cell? "feature_key" = some (.plain (.text counter.feature.name)) ∧
          row.cell? "cycle_started_at" = some (.time counter.start.moment) :=
    fun stands => ⟨stands.cell? rfl, stands.cell? rfl, stands.cell? rfl⟩
  obtain ⟨user, feature, start⟩ := named here
  obtain ⟨userToo, featureToo, startToo⟩ := named there
  rw [Fields.agreeOn_cons, Fields.agreeOn_cons "feature_key", Fields.agreeOn_single user userToo,
    Fields.agreeOn_single feature featureToo, Fields.agreeOn_single start startToo]
  simp [UsageCounter.key, FeatureKey.name_injective.eq_iff]

theorem Kind.proper_of_stand {α : Type} {kind : Kind α} {rows : List Fields} {things : List α}
    (stand : Forall₂ kind.Stands rows things) : ∀ thing ∈ things, kind.Proper thing := by
  intro thing listed
  have flipped : Forall₂ (fun thing row => kind.Stands row thing) things rows := stand.flip
  obtain ⟨row, -, stands⟩ := exists_of_forall₂ flipped listed
  exact stands.proper

namespace Contents

variable {remote : RemoteStore} {tables shown : Tables} {store : MemoryStore}

theorem of_alike (contents : Contents remote tables store) (alike : ∀ name, Forall₂ Fields.Alike (shown name) (tables name)) :
    Contents remote shown store where
  users := forall₂_comp (alike _) contents.users fun same stands => stands.of_alike same
  plans := forall₂_comp (alike _) contents.plans fun same stands => stands.of_alike same
  entitlements := forall₂_comp (alike _) contents.entitlements fun same stands => stands.of_alike same
  usage := forall₂_comp (alike _) contents.usage fun same stands => stands.of_alike same

theorem pairwise_of_label {α κ τ : Type} [DecidableEq κ] {kind : Kind α} {name : α → κ} {map : OrderedMap κ α}
    {rows : List Fields} {label : α → Option τ} {column : String} (cell : α → Cell)
    (stand : Forall₂ kind.Stands rows map.values) (keyed : map.KeyedBy name) (apart : map.Apart label)
    (stated : ∀ thing, (kind.cells thing).lookup column = some (cell thing))
    (marks : ∀ thing other, cell thing = cell other → cell thing ≠ .plain .null →
      ∃ mark, label thing = some mark ∧ label other = some mark) :
    rows.Pairwise fun first second => first.agreeOn [column] second = false := by
  refine pairwise_of_forall₂ stand (apart.pairwise_values keyed) fun {row thing other held} here there differ => ?_
  rw [Fields.agreeOn_single (here.cell? (stated thing)) (there.cell? (stated held)), decide_eq_false_iff_not]
  rintro ⟨same, given⟩
  obtain ⟨mark, marked, markedToo⟩ := marks thing held same given
  exact differ mark marked markedToo

theorem unique (contents : Contents remote tables store) (keyed : store.Keyed) (unique : store.Unique) :
    tables.Unique remote := by
  have text : ∀ {first second : String}, Cell.plain (.text first) = .plain (.text second) → first = second := by
    rintro first second same
    injection same with same
    injection same
  rintro key listed
  simp only [Tables.uniqueColumns, List.mem_cons, List.not_mem_nil, or_false] at listed
  rcases listed with rfl | rfl | rfl | rfl | rfl | rfl | rfl
  · exact pairwise_of_label (fun user => .plain (.text user.id)) contents.users keyed.users (.of_name keyed.users)
      (fun _ => rfl) fun user other same _ => ⟨_, rfl, by rw [text same]⟩
  · refine pairwise_of_label (fun user => .plain user.customerId) contents.users keyed.users unique.customers
      (fun _ => rfl) fun user other same given => ?_
    simp only [Cell.plain.injEq, ne_eq] at same given
    exact ⟨user.customerId, if_neg given, (if_neg (same ▸ given)).trans (by rw [same])⟩
  · exact pairwise_of_label (fun plan => .plain (.text plan.id)) contents.plans keyed.plans unique.plans
      (fun _ => rfl) fun plan other same _ => ⟨_, rfl, by rw [text same]⟩
  · exact pairwise_of_label (fun plan => .plain (.text plan.productId)) contents.plans keyed.plans (.of_name keyed.plans)
      (fun _ => rfl) fun plan other same _ => ⟨_, rfl, by rw [text same]⟩
  · exact pairwise_of_label (fun held => .plain (.text held.userId)) contents.entitlements keyed.entitlements
      (.of_name keyed.entitlements) (fun _ => rfl)
      fun held other same _ => ⟨_, rfl, by rw [text same]⟩
  · exact pairwise_of_label (fun held => .plain (.text held.subscriptionId)) contents.entitlements keyed.entitlements
      unique.subscriptions (fun _ => rfl)
      fun held other same _ => ⟨_, rfl, by rw [text same]⟩
  · have apart := (OrderedMap.Apart.of_name keyed.usage).pairwise_values keyed.usage
    refine pairwise_of_forall₂ contents.usage apart fun here there differ => ?_
    rw [agreeOn_of_counters here there, decide_eq_false_iff_not]
    exact fun same => differ _ rfl (congrArg some same.symm)

end Contents

namespace TableService

variable {σ α β : Type} {service : TableService σ} {remote : RemoteStore} {now : DateTime}
  {before between after store : MemoryStore}

/-- Whether a program gives a value as expected and leaves tables that hold what one store has, when it is started on tables that
hold what another has. -/
def Brings (service : TableService σ) (remote : RemoteStore) (now : DateTime) (before : MemoryStore) (dialogue : Dialogue α)
    (expected : α → Prop) (after : MemoryStore) : Prop :=
  ∀ state, Contents remote (service.tables state) before → ∃ found left,
    service.converse now dialogue state = (.ok found, left) ∧ expected found ∧ Contents remote (service.tables left) after

namespace Brings

variable {expected : α → Prop}

theorem lift {outcome : Outcome α} {value : α} (done : outcome = .ok value) (meets : expected value) :
    service.Brings remote now store (Dialogue.lift outcome) expected store := by
  subst done
  exact fun state contents => ⟨value, state, rfl, meets, contents⟩

theorem pure {value : α} (meets : expected value) : service.Brings remote now store (pure value) expected store :=
  lift rfl meets

theorem note (entry : LogEntry) : service.Brings remote now store (Dialogue.note entry) (fun _ => True) store :=
  fun state contents => ⟨(), state, rfl, trivial, contents⟩

theorem bind {dialogue : Dialogue β} {middle : β → Prop} {next : β → Dialogue α}
    (first : service.Brings remote now before dialogue middle between)
    (rest : ∀ value, middle value → service.Brings remote now between (next value) expected after) :
    service.Brings remote now before (dialogue >>= next) expected after := by
  intro state contents
  obtain ⟨value, left, given, meets, kept⟩ := first state contents
  rw [converse_bind, given]
  exact rest value meets left kept

theorem bind_lift {outcome : Outcome β} {value : β} {next : β → Dialogue α} (done : outcome = .ok value)
    (rest : service.Brings remote now before (next value) expected after) :
    service.Brings remote now before (Dialogue.lift outcome >>= next) expected after := by
  subst done
  exact rest

theorem imp {dialogue : Dialogue α} {given : α → Prop} (brings : service.Brings remote now before dialogue given after)
    (implies : ∀ value, given value → expected value) : service.Brings remote now before dialogue expected after := by
  intro state contents
  obtain ⟨value, left, done, meets, kept⟩ := brings state contents
  exact ⟨value, left, done, implies value meets, kept⟩

theorem rows (lawful : service.Lawful remote) (keyed : after.Keyed) (regular : after.Regular) {query : Query}
    {expected : List Value → Prop} (readable : query.isReadable = true)
    (comes : ∀ tables, Contents remote tables before → ∃ rows left, Tables.run remote now tables query = some (rows, left) ∧
      Contents remote left after ∧ ∀ answers, Forall₂ Shows answers rows → expected answers) :
    service.Brings remote now before (Dialogue.rows query) expected after := by
  intro state contents
  obtain ⟨rows, left, run, kept, meets⟩ := comes _ contents
  obtain ⟨shown, alike⟩ := lawful.answers readable run (kept.unique keyed regular.toUnique)
  exact ⟨_, _, rfl, meets _ shown, kept.of_alike alike⟩

variable {kind : Kind α}

theorem select (lawful : service.Lawful remote) (keyed : store.Keyed) (regular : store.Regular) {name : String}
    {clauses : List Clause} {things : List α} (readable : (Query.table name (.select :: clauses)).isReadable = true)
    (stand : ∀ tables, Contents remote tables store → Forall₂ kind.Stands (Tables.select clauses (tables name)) things) :
    service.Brings remote now store (Dialogue.rows (.table name (.select :: clauses)))
      (fun answers => Forall₂ kind.Shown answers things) store :=
  rows lawful keyed regular readable fun tables contents =>
    ⟨_, tables, rfl, contents, fun _ shown => forall₂_comp shown (stand tables contents) .of_stands⟩

theorem readRow {row : Option Value} {thing : Option α} (shown : Option.Rel kind.Shown row thing) :
    service.Brings remote now store (RemoteStore.readRow kind.read row) (fun found => Option.Rel kind.Same found thing) store := by
  cases shown with
  | none => exact pure .none
  | some shown =>
    obtain ⟨found, reads, same⟩ := shown.read
    exact bind (lift reads (rfl : found = found)) fun value is => pure (is ▸ .some same)

theorem readRows {answers : List Value} {things : List α} (shown : Forall₂ kind.Shown answers things) :
    service.Brings remote now store (Dialogue.lift (RemoteStore.readRows kind.read answers))
      (fun found => Forall₂ kind.Same found things) store := by
  have reads : ∃ found, RemoteStore.readRows kind.read answers = .ok found ∧ Forall₂ kind.Same found things := by
    induction shown with
    | nil => exact ⟨[], rfl, .nil⟩
    | cons here _ ih =>
      obtain ⟨first, reads, same⟩ := here.read
      obtain ⟨others, rest, alike⟩ := ih
      refine ⟨first :: others, ?_, .cons same alike⟩
      unfold RemoteStore.readRows
      rw [reads, rest]
      rfl
  obtain ⟨found, reads, same⟩ := reads
  exact lift reads same

theorem stamp (time : DateTime) :
    service.Brings remote now store (RemoteStore.stamp (some time)) (fun value => value = .text time.iso) store :=
  pure rfl

theorem rel_head?_of_take {answers : List Value} {things : List α} {test : α → Bool}
    (shown : Forall₂ kind.Shown answers ((things.filter test).take 1)) :
    Option.Rel kind.Shown answers.head? (things.find? test) := by
  have first := rel_head? shown
  rwa [List.head?_take, if_neg Nat.one_ne_zero, List.head?_filter] at first

theorem findRow (lawful : service.Lawful remote) (keyed : store.Keyed) (regular : store.Regular) {name column : String}
    {value : Value} {things : List α} {test : α → Bool} (readable : (Cell.of? column value).isSome = true)
    (stand : ∀ tables, Contents remote tables store → Forall₂ kind.Stands (tables name) things)
    (decides : ∀ {row thing}, kind.Stands row thing → Cell.agree (row.cell? column) (Cell.of? column value) = test thing) :
    service.Brings remote now store (RemoteStore.findRow kind.read name column value)
      (fun found => Option.Rel kind.Same found (things.find? test)) store := by
  have selected : ∀ tables, Contents remote tables store →
      Forall₂ kind.Stands (Tables.select [.eq column value, .limit 1] (tables name)) ((things.filter test).take 1) :=
    fun tables contents => List.forall₂_take 1 (forall₂_filter (stand tables contents) fun here => by
      simpa [Tables.passes, Clause.test] using decides here)
  have readable : (Query.table name [.select, .eq column value, .limit 1]).isReadable = true := by
    simpa [Query.isReadable, Clause.isReadable] using readable
  have first : service.Brings remote now store (RemoteStore.firstRow name column value)
      (fun row => Option.Rel kind.Shown row (things.find? test)) store := by
    refine bind (select lawful keyed regular readable selected) fun answers shown => pure ?_
    have head := rel_head?_of_take shown
    rwa [Kind.filter_truthy head]
  exact bind first fun row shown => readRow shown

end Brings

end TableService

end PaidAccess
