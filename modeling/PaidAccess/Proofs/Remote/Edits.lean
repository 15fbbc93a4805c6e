import PaidAccess.Proofs.Remote.Contents
/-!
What becomes of rows when they are edited, and of the things that stand in them. A row that is given to a table says what it says,
and about the rest what was said before.
-/

namespace PaidAccess

open List (Forall₂)

namespace Fields

variable {base later : Fields} {column : String}

theorem cell?_cons (column other : String) (value : Value) (rest : Fields) :
    cell? ((other, value) :: rest) column = if column = other then Cell.of? column value else cell? rest column := by
  unfold cell?
  rw [find?_cons]
  split <;> rfl

theorem cell?_merge (distinct : later.Distinct) (base : Fields) (column : String) :
    (base.merge later).cell? column = ((later.find? column).or (base.find? column)).bind (Cell.of? column) := by
  unfold cell?
  rw [find?_merge distinct]

theorem cell?_set (column other : String) (value : Value) (base : Fields) :
    (Fields.set other value base).cell? column = if column = other then Cell.of? column value else base.cell? column := by
  unfold cell?
  rw [find?_set]
  split <;> rfl

theorem Holds.merge {cells : List (String × Cell)} (holds : later.Holds cells) (distinct : later.Distinct) (base : Fields) :
    (base.merge later).Holds cells := by
  intro entry listed
  have said := holds entry listed
  rw [cell?_merge distinct]
  unfold cell? at said
  cases found : later.find? entry.1 with
  | none => rw [found] at said; cases said
  | some value => rwa [found] at said

end Fields

namespace Kind

section

variable {α : Type} {kind : Kind α} {rows : List Fields} {things : List α} {test : Fields → Bool} {passes : α → Bool}
  {edit : Fields → Fields} {next : α → α}

theorem change (stand : Forall₂ kind.Stands rows things)
    (decides : ∀ {row thing}, kind.Stands row thing → test row = passes thing)
    (edits : ∀ {row thing}, kind.Stands row thing → thing ∈ things → passes thing = true →
      kind.Stands (edit row) (next thing)) :
    Forall₂ kind.Stands (Tables.change test edit rows).1 ((things.filter passes).map next) ∧
      Forall₂ kind.Stands (Tables.change test edit rows).2
        (things.map fun thing => if passes thing then next thing else thing) := by
  unfold Tables.change
  induction stand with
  | nil => exact ⟨.nil, .nil⟩
  | @cons row thing _ _ here _ ih =>
    have rest := ih fun stands listed passing => edits stands (List.mem_cons_of_mem _ listed) passing
    rw [List.filter_cons, List.filter_cons, List.map_cons, List.map_cons, decides here]
    cases passing : passes thing with
    | true =>
      have edited := edits here List.mem_cons_self passing
      exact ⟨.cons edited rest.1, .cons edited rest.2⟩
    | false => exact ⟨rest.1, .cons here rest.2⟩

end

section

variable {α κ : Type} [DecidableEq κ] {kind : Kind α} {name : α → κ} {map : OrderedMap κ α} {rows : List Fields} {key : κ}

theorem change_at {test : Fields → Bool} {edit : Fields → Fields} {next : α → α} (passes : α → Bool)
    (keyed : map.KeyedBy name) (stand : Forall₂ kind.Stands rows map.values)
    (decides : ∀ {row thing}, kind.Stands row thing → test row = (decide (name thing = key) && passes thing))
    (edits : ∀ {row thing}, kind.Stands row thing → map.get? key = some thing → passes thing = true →
      kind.Stands (edit row) (next thing)) :
    Forall₂ kind.Stands (Tables.change test edit rows).1 (((map.get? key).filter passes).map next).toList ∧
      Forall₂ kind.Stands (Tables.change test edit rows).2
        (map.insert? key (((map.get? key).filter passes).map next)).values := by
  obtain ⟨changed, left⟩ := change stand decides fun stands listed passing => by
    rw [Bool.and_eq_true, decide_eq_true_eq] at passing
    exact edits stands (passing.1 ▸ keyed.mem_values_iff.mp listed) passing.2
  have split : (map.values.filter fun thing => decide (name thing = key) && passes thing) =
      (map.get? key).toList.filter passes := by
    rw [← keyed.filter_values, List.filter_filter]
    exact List.filter_congr fun _ _ => Bool.and_comm _ _
  rw [keyed.values_insert?, Option.toList_map, Option.toList_filter, ← split]
  exact ⟨changed, left⟩

theorem any_agreeOn {given : Fields} {columns : List String} (keyed : map.KeyedBy name)
    (stand : Forall₂ kind.Stands rows map.values)
    (agrees : ∀ {row thing}, kind.Stands row thing → given.agreeOn columns row = decide (name thing = key)) :
    rows.any (given.agreeOn columns) = (map.get? key).isSome := by
  have matching := forall₂_filter stand agrees
  rw [keyed.filter_values] at matching
  cases found : map.get? key with
  | none =>
    rw [found] at matching
    exact List.any_eq_false.mpr (List.filter_eq_nil_iff.mp (List.forall₂_nil_right_iff.mp matching))
  | some thing =>
    rw [found] at matching
    obtain ⟨row, _, -, -, listed⟩ := List.forall₂_cons_right_iff.mp matching
    have member := List.mem_filter.mp (listed ▸ List.mem_cons_self : row ∈ rows.filter (given.agreeOn columns))
    exact List.any_eq_true.mpr ⟨row, member⟩

variable {columns : List String} {given defaults : Fields} {fresh : α}

theorem upsert {next : α → α} (keyed : map.KeyedBy name) (stand : Forall₂ kind.Stands rows map.values)
    (agrees : ∀ {row thing}, kind.Stands row thing → given.agreeOn columns row = decide (name thing = key))
    (first : kind.Stands (defaults.merge given) fresh)
    (edits : ∀ {row thing}, kind.Stands row thing → kind.Stands (row.merge given) (next thing)) :
    Forall₂ kind.Stands (Tables.upsert columns false defaults given rows).1 [((map.get? key).map next).getD fresh] ∧
      Forall₂ kind.Stands (Tables.upsert columns false defaults given rows).2
        (map.insert key (((map.get? key).map next).getD fresh)).values := by
  unfold Tables.upsert
  rw [any_agreeOn keyed stand agrees]
  cases found : map.get? key with
  | none =>
    rw [OrderedMap.values_insert_of_get?_eq_none found]
    exact ⟨.cons first .nil, List.rel_append stand (.cons first .nil)⟩
  | some old =>
    have changed := change_at (fun _ => true) keyed stand
      (fun stands => (agrees stands).trans (Bool.and_true _).symm) fun stands _ _ => edits stands
    rw [found] at changed
    exact changed

theorem upsert_keep (keyed : map.KeyedBy name) (stand : Forall₂ kind.Stands rows map.values)
    (agrees : ∀ {row thing}, kind.Stands row thing → given.agreeOn columns row = decide (name thing = key))
    (first : kind.Stands (defaults.merge given) fresh) :
    Forall₂ kind.Stands (Tables.upsert columns true defaults given rows).2 (map.insertNew key fresh).values := by
  unfold Tables.upsert OrderedMap.insertNew
  rw [any_agreeOn keyed stand agrees]
  cases found : map.get? key with
  | none =>
    dsimp only
    rw [OrderedMap.values_insert_of_get?_eq_none found]
    exact List.rel_append stand (.cons first .nil)
  | some old => exact stand

end

end Kind

namespace Cell

variable {column : String}

theorem of?_plain (untimed : column ∉ timeColumns) (value : Value) : of? column value = some (.plain value) :=
  if_neg fun timed => untimed timed.1

theorem of?_time (timed : column ∈ timeColumns) {text : String} {t : DateTime} (read : Lenient.time (.text text) = .valid t) :
    of? column (.text text) = some (.time t.moment) := by
  unfold of?
  rw [if_pos ⟨timed, nofun⟩, read]

theorem agree_plain (first second : Value) :
    agree (some (.plain first)) (some (.plain second)) = decide (first = second ∧ first ≠ .null) := by
  simp [agree]

theorem after_time {first second : DateTime} (zoned : first.Zoned) (zonedToo : second.Zoned) :
    after (some (.time first.moment)) (some (.time second.moment)) = decide (second.instant < first.instant) := by
  rw [zoned.moment, zonedToo.moment]
  rfl

theorem atMost_time {first second : DateTime} (zoned : first.Zoned) (zonedToo : second.Zoned) :
    atMost (some (.time first.moment)) (some (.time second.moment)) = decide (first.instant ≤ second.instant) := by
  rw [zoned.moment, zonedToo.moment]
  rfl

end Cell

theorem Kind.Stands.test_eq {α : Type} {kind : Kind α} {row : Fields} {thing : α} (stands : kind.Stands row thing)
    {column : String} {value : Value} (stated : (kind.cells thing).lookup column = some (.plain value)) (untimed : column ∉ Cell.timeColumns)
    (text : String) : Clause.test (.eq column (.text text)) row = decide (value = .text text) := by
  change Cell.agree (row.cell? column) (Cell.of? column (.text text)) = _
  rw [Cell.of?_plain untimed, stands.cell? stated, Cell.agree_plain]
  exact decide_eq_decide.mpr ⟨And.left, fun same => ⟨same, by rw [same]; nofun⟩⟩

/-- A row is found by a time in a column exactly if what it holds has the same point in time there. -/
theorem Kind.Stands.test_eq_time {α : Type} {kind : Kind α} {row : Fields} {thing : α} (stands : kind.Stands row thing)
    {column : String} {moment : Moment} (stated : (kind.cells thing).lookup column = some (.time moment)) (timed : column ∈ Cell.timeColumns)
    {time : DateTime} (exact : time.ToTheMinute) :
    Clause.test (.eq column (.text time.iso)) row = decide (moment = time.moment) := by
  change Cell.agree (row.cell? column) (Cell.of? column (.text time.iso)) = _
  rw [Cell.of?_time timed exact.time_iso, stands.cell? stated]
  simp [Cell.agree]

namespace UsageCounter

def row (counter : UsageCounter) : Fields :=
  [("user_id", .text counter.userId), ("feature_key", .text counter.feature.name), ("used_amount", counter.used.toValue),
    ("cycle_started_at", .text counter.start.wire), ("cycle_ends_at", .text counter.finish.wire)]

theorem toValue_wire (counter : UsageCounter) : counter.toValue DateTime.wire = .record counter.row := rfl

theorem distinct_row (counter : UsageCounter) : counter.row.Distinct := by
  simp [Fields.Distinct, row]

structure Writable (counter : UsageCounter) : Prop where
  counts : counter.Counts
  starts : counter.start.ToTheMinute
  ends : counter.finish.ToTheMinute

variable {counter : UsageCounter}

theorem Writable.proper (writable : counter.Writable) : counter.Proper :=
  ⟨writable.counts, writable.starts.zoned, writable.ends.zoned⟩

theorem Writable.holds (writable : counter.Writable) : counter.row.Holds counter.cells := by
  have start := Cell.of?_time (show "cycle_started_at" ∈ Cell.timeColumns by decide) writable.starts.time_wire
  have finish := Cell.of?_time (show "cycle_ends_at" ∈ Cell.timeColumns by decide) writable.ends.time_wire
  simp [cells, Fields.Holds, row, Fields.cell?_cons, Cell.of?_plain, Cell.timeColumns, start, finish]

theorem Writable.isReadable (writable : counter.Writable) : counter.row.isReadable = true := by
  have start := Cell.of?_time (show "cycle_started_at" ∈ Cell.timeColumns by decide) writable.starts.time_wire
  have finish := Cell.of?_time (show "cycle_ends_at" ∈ Cell.timeColumns by decide) writable.ends.time_wire
  simp [row, Fields.isReadable, Cell.of?_plain, Cell.timeColumns, start, finish]

theorem stands_spent {row : Fields} {used amount : Int} (stands : Kind.counters.Stands row counter)
    (whole : counter.used = .whole used) (counts : 0 ≤ used + amount) :
    Kind.counters.Stands (Tables.spent (.int amount) row) { counter with used := .whole (used + amount) } := by
  have shown : row.cell? "used_amount" = some (.plain counter.used.toValue) := stands.cell? rfl
  have edited : Tables.spent (.int amount) row = Fields.set "used_amount" (.int (used + amount)) row := by
    unfold Tables.spent
    rw [shown, whole]
    rfl
  have holds : row.Holds counter.cells := stands.holds
  simp only [cells, Fields.holds_cons] at holds
  obtain ⟨user, feature, -, start, finish, -⟩ := holds
  refine ⟨⟨⟨_, counts, rfl⟩, stands.proper.2⟩, ?_⟩
  simp [edited, Kind.counters, cells, Fields.Holds, Fields.cell?_set, user, feature, start, finish, Amount.toValue,
    Cell.of?_plain, Cell.timeColumns]

end UsageCounter

theorem User.stands_merge {row : Fields} {user : User} (stands : Kind.users.Stands row user) (customer : String) :
    Kind.users.Stands (row.merge [("stripe_customer_id", .text customer)]) { user with customerId := .text customer } := by
  have holds : row.Holds user.cells := stands.holds
  simp only [cells, Fields.holds_cons] at holds
  obtain ⟨id, email, name, -, -⟩ := holds
  refine ⟨⟨some customer, rfl⟩, ?_⟩
  simp [Kind.users, cells, Fields.Holds, Fields.merge, Fields.cell?_set, id, email, name, Cell.of?_plain, Cell.timeColumns]

namespace Entitlement

open RemoteStore (entitlementRow)

theorem entitlementRow_eq (now : DateTime) (entitlement : Entitlement) : entitlementRow now entitlement =
    [("user_id", .text entitlement.userId), ("plan_id", .text entitlement.planId),
      ("expires_at", .text entitlement.expiresAt.wire), ("stripe_subscription_id", .text entitlement.subscriptionId),
      ("stripe_price_id", .text entitlement.priceId), ("stripe_customer_id", .ofText? entitlement.customerId),
      ("cancel_at_period_end", .bool entitlement.cancelAtPeriodEnd), ("updated_at", .text now.iso)] := by
  simp [entitlementRow, toFields, Fields.erase, Fields.set]

variable {entitlement : Entitlement} {now : DateTime}

theorem stands_merge {row : Fields} {created : Option DateTime} (expires : entitlement.expiresAt.ToTheMinute)
    (clock : now.ToTheMinute) (creation : row.cell? "created_at" = some (.ofTime? created)) :
    Kind.entitlements.Stands (row.merge (entitlementRow now entitlement))
      { entitlement with createdAt := created, updatedAt := some now } := by
  have expiry := Cell.of?_time (show "expires_at" ∈ Cell.timeColumns by decide) expires.time_wire
  have update := Cell.of?_time (show "updated_at" ∈ Cell.timeColumns by decide) clock.time_iso
  refine ⟨expires.zoned, ?_⟩
  simp [Kind.entitlements, cells, Fields.Holds, entitlementRow_eq, Fields.merge, Fields.cell?_set, creation, expiry, update,
    Cell.of?_plain, Cell.timeColumns, Cell.ofTime?]

theorem agreeOn_entitlementRow {row : Fields} {held : Entitlement} (stands : Kind.entitlements.Stands row held) :
    (entitlementRow now entitlement).agreeOn ["user_id"] row = decide (held.userId = entitlement.userId) := by
  have given : (entitlementRow now entitlement).cell? "user_id" = some (.plain (.text entitlement.userId)) := by
    simp [entitlementRow_eq, Fields.cell?_cons, Cell.of?_plain, Cell.timeColumns]
  rw [Fields.agreeOn_single given (stands.cell? rfl)]
  simp [eq_comm]

theorem isReadable_row (expires : entitlement.expiresAt.ToTheMinute) (clock : now.ToTheMinute) :
    (entitlementRow now entitlement).isReadable = true := by
  have expiry := Cell.of?_time (show "expires_at" ∈ Cell.timeColumns by decide) expires.time_wire
  have update := Cell.of?_time (show "updated_at" ∈ Cell.timeColumns by decide) clock.time_iso
  simp [entitlementRow_eq, Fields.isReadable, Cell.of?_plain, Cell.timeColumns, expiry, update]

end Entitlement

end PaidAccess
