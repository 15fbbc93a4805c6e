import PaidAccess.Proofs.Calendar.Expressible
import PaidAccess.Proofs.Remote.Edits
import PaidAccess.Proofs.Service.Sample
import PaidAccess.Proofs.Store.Isolation
/-!
What a store in a table service writes is what it reads. Entitlements and counters that pass validation pass it again in the form in
which they are sent, and are read as what they were, with the same points in time at the same offsets.
-/

namespace PaidAccess

namespace Dialogue

variable {α β : Type}

/-- Whether a program may send rows to be put in. -/
inductive Sends (rows : Value) : Dialogue α → Prop where
  | here {name columns : String} {keeps : Bool} {clauses : List Clause} {next : List Value → Dialogue α}
      (put : .upsert rows columns keeps ∈ clauses) : Sends rows (.ask (.table name clauses) next)
  | later {query : Query} {next : List Value → Dialogue α} {answers : List Value} (sends : Sends rows (next answers)) :
      Sends rows (.ask query next)
  | remark {entry : LogEntry} {next : Dialogue α} (sends : Sends rows next) : Sends rows (.remark entry next)

/-- Whether a program sends rows, and only such as are read as a thing. -/
def Writes (read : Value → Checked β) (thing : β) (program : Dialogue α) : Prop :=
  (∃ rows, program.Sends rows) ∧ ∀ rows, program.Sends rows → read rows = .valid thing

def Silent (program : Dialogue α) : Prop := ∀ rows, ¬program.Sends rows

namespace Silent

variable {program : Dialogue α} {next : α → Dialogue β}

theorem done (outcome : Outcome α) : Silent (.done outcome) := nofun

theorem ask {query : Query} {next : List Value → Dialogue α} (puts : ∀ name clauses, query = .table name clauses →
    ∀ rows columns keeps, .upsert rows columns keeps ∉ clauses) (rest : ∀ answers, (next answers).Silent) :
    Silent (.ask query next) := by
  intro rows sends
  cases sends with
  | here put => exact puts _ _ rfl _ _ _ put
  | later sends => exact rest _ _ sends

theorem bind (silent : program.Silent) (rest : ∀ value, (next value).Silent) : (program >>= next).Silent := by
  induction program with
  | done outcome =>
    cases outcome with
    | ok value => exact rest value
    | error failure => exact done _
  | ask query answer ih =>
    intro rows sends
    cases sends with
    | here put => exact silent rows (.here put)
    | later sends => exact ih _ (fun rows sends => silent rows (.later sends)) rows sends
  | remark entry program ih =>
    intro rows sends
    cases sends with
    | remark sends => exact ih (fun rows sends => silent rows (.remark sends)) rows sends

theorem readRow {read : Value → Checked α} (row : Option Value) : (RemoteStore.readRow read row).Silent := by
  cases row with
  | none => exact done _
  | some row => exact bind (done _) fun _ => done _

end Silent

theorem sends_remark {entry : LogEntry} {next : Dialogue α} {rows : Value} : Sends rows (.remark entry next) ↔ next.Sends rows :=
  ⟨fun sends => by cases sends with | remark sends => exact sends, .remark⟩

theorem sends_upsert {name columns : String} {keeps : Bool} {put rows : Value} {next : List Value → Dialogue α}
    (silent : ∀ answers, (next answers).Silent) :
    Sends rows (.ask (.table name [.upsert put columns keeps]) next) ↔ rows = put := by
  constructor
  · intro sends
    cases sends with
    | here listed =>
      cases List.mem_singleton.mp listed
      rfl
    | later sends => exact absurd sends (silent _ _)
  · rintro rfl
    exact .here List.mem_cons_self

theorem writes_of_sends {read : Value → Checked β} {thing : β} {program : Dialogue α} {put : Value}
    (sends : ∀ rows, program.Sends rows ↔ rows = put) (reads : read put = .valid thing) : program.Writes read thing := by
  refine ⟨⟨put, (sends put).mpr rfl⟩, fun rows sent => ?_⟩
  rw [(sends rows).mp sent]
  exact reads

end Dialogue

open Checked

theorem Checked.nullable_time {time : Option DateTime} {stamp : DateTime → String}
    (reads : ∀ known ∈ time, Lenient.time (.text (stamp known)) = .valid known) :
    nullable Lenient.time (.ofText? (time.map stamp)) = .valid time := by
  cases time with
  | none => rfl
  | some known => exact nullable_eq_valid_iff.mpr (.inr ⟨nofun, known, reads known rfl, rfl⟩)

theorem Lenient.le_of_integerFrom {least number : Int} {value : Value} (reads : Lenient.integerFrom least value = .valid number) :
    least ≤ number := by
  obtain ⟨_, -, within⟩ := andThen_eq_valid_iff.mp reads
  split at within
  next bound =>
    cases within
    exact bound
  next => cases within

namespace Entitlement

def Valid (entitlement : Entitlement) : Prop := ∃ given, ofValue given = .valid entitlement

variable {entitlement : Entitlement} {now : DateTime}

theorem ofValue_of_find? {row : Fields} {created updated : Option DateTime}
    (user : row.find? "user_id" = some (.text entitlement.userId)) (plan : row.find? "plan_id" = some (.text entitlement.planId))
    (expires : row.find? "expires_at" = some (.text entitlement.expiresAt.wire)) (expressible : entitlement.expiresAt.Expressible)
    (subscription : row.find? "stripe_subscription_id" = some (.text entitlement.subscriptionId))
    (price : row.find? "stripe_price_id" = some (.text entitlement.priceId))
    (customer : row.find? "stripe_customer_id" = some (.ofText? entitlement.customerId))
    (cancel : row.find? "cancel_at_period_end" = some (.bool entitlement.cancelAtPeriodEnd))
    (creation : optional "created_at" Lenient.time row = .valid created)
    (update : optional "updated_at" Lenient.time row = .valid updated) :
    ofValue (.record row) = .valid { entitlement with createdAt := created, updatedAt := updated } := by
  have user : required "user_id" Lenient.text row = .valid entitlement.userId := required_of_find? user rfl
  have plan : required "plan_id" Lenient.text row = .valid entitlement.planId := required_of_find? plan rfl
  have expiry : required "expires_at" Lenient.time row = .valid entitlement.expiresAt :=
    required_of_find? expires expressible.time_wire
  have subscription : required "stripe_subscription_id" Lenient.text row = .valid entitlement.subscriptionId :=
    required_of_find? subscription rfl
  have price : required "stripe_price_id" Lenient.text row = .valid entitlement.priceId := required_of_find? price rfl
  have customer : optional "stripe_customer_id" Lenient.text row = .valid entitlement.customerId :=
    defaulted_of_find? customer (nullable_text _)
  have cancel : defaulted "cancel_at_period_end" false Lenient.flag row = .valid entitlement.cancelAtPeriodEnd :=
    defaulted_of_find? cancel rfl
  simp only [ofValue, model, user, plan, expiry, subscription, price, customer, cancel, creation, update]
  rfl

theorem valid_iff : entitlement.Valid ↔ entitlement.expiresAt.Expressible ∧
    (∀ time ∈ entitlement.createdAt, time.Expressible) ∧ ∀ time ∈ entitlement.updatedAt, time.Expressible := by
  constructor
  · rintro ⟨given, passes⟩
    obtain ⟨row, -, passes⟩ := model_eq_valid_iff.mp passes
    simp only [seq_eq_valid_iff, map_eq_valid_iff] at passes
    obtain ⟨_, updated, ⟨_, created, ⟨_, _, ⟨_, _, ⟨_, _, ⟨_, _, ⟨_, expiry, ⟨_, _, ⟨_, -, rfl⟩, -, rfl⟩, expires, rfl⟩, -, rfl⟩,
      -, rfl⟩, -, rfl⟩, -, rfl⟩, creation, rfl⟩, update, rfl⟩ := passes
    obtain ⟨_, -, reads⟩ := required_eq_valid_iff.mp expires
    refine ⟨DateTime.expressible_of_time reads, fun time known => ?_, fun time known => ?_⟩
    · obtain ⟨_, reads⟩ := mem_of_optional creation time known
      exact DateTime.expressible_of_time reads
    · obtain ⟨_, reads⟩ := mem_of_optional update time known
      exact DateTime.expressible_of_time reads
  · rintro ⟨expires, created, updated⟩
    refine ⟨entitlement.toValue DateTime.wire, ofValue_of_find? rfl rfl rfl expires rfl rfl rfl rfl ?_ ?_⟩
    · exact defaulted_of_find? rfl (nullable_time fun time known => (created time known).time_wire)
    · exact defaulted_of_find? rfl (nullable_time fun time known => (updated time known).time_wire)

theorem ofValue_entitlementRow (expires : entitlement.expiresAt.Expressible) (clock : now.Expressible) :
    ofValue (.record (RemoteStore.entitlementRow now entitlement)) =
      .valid { entitlement with createdAt := none, updatedAt := some now } := by
  have clocked : ∀ known ∈ some now, Lenient.time (.text known.iso) = .valid known := by
    rintro _ ⟨⟩
    exact clock.time_iso
  rw [entitlementRow_eq]
  exact ofValue_of_find? rfl rfl rfl expires rfl rfl rfl rfl rfl (defaulted_of_find? rfl (nullable_time clocked))

end Entitlement

namespace UsageCounter

def Valid (counter : UsageCounter) : Prop := ∃ given, ofValue given = .valid counter

variable {counter : UsageCounter}

theorem ofValue_wire (counts : counter.Counts) (starts : counter.start.Expressible)
    (ends : counter.finish.Expressible) : ofValue (counter.toValue DateTime.wire) = .valid counter := by
  obtain ⟨used, positive, whole⟩ := counts
  have reads : usedOfValue counter.used.toValue = .valid counter.used := by
    rw [whole]
    exact congrArg (Amount.whole <$> ·) (if_pos positive)
  have user : required "user_id" Lenient.text counter.row = .valid counter.userId := required_of_find? rfl rfl
  have feature : required "feature_key" FeatureKey.ofValue counter.row = .valid counter.feature :=
    required_of_find? rfl (FeatureKey.ofValue_name _)
  have amount : defaulted "used_amount" (.whole 0) usedOfValue counter.row = .valid counter.used := defaulted_of_find? rfl reads
  have start : required "cycle_started_at" Lenient.time counter.row = .valid counter.start :=
    required_of_find? rfl starts.time_wire
  have finish : required "cycle_ends_at" Lenient.time counter.row = .valid counter.finish :=
    required_of_find? rfl ends.time_wire
  rw [toValue_wire]
  simp only [ofValue, model, user, feature, amount, start, finish]
  rfl

theorem valid_iff : counter.Valid ↔ counter.Counts ∧ counter.start.Expressible ∧ counter.finish.Expressible := by
  constructor
  · rintro ⟨given, passes⟩
    obtain ⟨row, -, passes⟩ := model_eq_valid_iff.mp passes
    simp only [seq_eq_valid_iff, map_eq_valid_iff] at passes
    obtain ⟨_, finish, ⟨_, start, ⟨_, used, ⟨_, _, ⟨_, -, rfl⟩, -, rfl⟩, amount, rfl⟩, starts, rfl⟩, ends, rfl⟩ := passes
    obtain ⟨_, -, starts⟩ := required_eq_valid_iff.mp starts
    obtain ⟨_, -, ends⟩ := required_eq_valid_iff.mp ends
    refine ⟨?_, DateTime.expressible_of_time starts, DateTime.expressible_of_time ends⟩
    rcases defaulted_eq_valid_iff.mp amount with ⟨-, zero⟩ | ⟨_, -, amount⟩
    · exact ⟨0, Int.le_refl 0, zero.symm⟩
    · obtain ⟨number, reads, whole⟩ := map_eq_valid_iff.mp amount
      exact ⟨number, Lenient.le_of_integerFrom reads, whole.symm⟩
  · rintro ⟨counts, starts, ends⟩
    exact ⟨_, ofValue_wire counts starts ends⟩

end UsageCounter

namespace RemoteStore

variable {now : DateTime} {rows : Value}

theorem sends_saveEntitlement (remote : RemoteStore) (now : DateTime) (entitlement : Entitlement) :
    (remote.saveEntitlement now entitlement).Sends rows ↔ rows = .record (entitlementRow now entitlement) := by
  unfold saveEntitlement
  refine Dialogue.sends_remark.trans (Dialogue.sends_upsert fun answers => ?_)
  exact .bind (.done _) fun _ => .bind (.readRow _) fun _ => .done _

theorem sends_openCounter (remote : RemoteStore) {userId : Value} {feature : FeatureKey} {start finish : Option DateTime}
    {counter : UsageCounter} (opened : UsageCounter.opened userId feature start finish = .valid counter) :
    (remote.openCounter userId feature start finish).Sends rows ↔ rows = counter.toValue DateTime.wire := by
  unfold openCounter
  rw [opened]
  refine Dialogue.sends_upsert fun answers => ?_
  -- Afterwards the counter is selected, which puts nothing in.
  refine Dialogue.Silent.ask (fun name clauses same => ?_) fun answers => ?_
  · cases same
    simp
  · exact .bind (.done _) fun _ => .bind (.readRow _) fun _ => .done _

theorem sends_resetUsage (remote : RemoteStore) {userId : Value} {plan : Plan} {start finish : Option DateTime}
    {counters : List UsageCounter} (fresh : plan.freshCounters userId start finish now = .ok counters) (carried : counters ≠ []) :
    (remote.resetUsage now userId plan start finish).Sends rows ↔
      rows = .list (counters.map (·.toValue DateTime.wire)) := by
  have nonempty : counters.isEmpty = false := List.isEmpty_eq_false_iff.mpr carried
  unfold resetUsage
  rw [fresh]
  change Dialogue.Sends rows (if counters.isEmpty = true then _ else _) ↔ _
  rw [nonempty]
  exact Dialogue.sends_upsert fun answers => .done _

/-- Whatever the store sends is read as what was meant: an entitlement that passes validation, without the time of its creation and
updated at the time that the clock shows; every counter that passes validation; the counter that is opened; and the counters of a
cycle. -/
theorem writes_read_back (remote : RemoteStore) (clock : now.Expressible) :
    (∀ entitlement : Entitlement, entitlement.Valid →
      (remote.program now (.saveEntitlement entitlement)).Writes Entitlement.ofValue
          { entitlement with createdAt := none, updatedAt := some now } ∧
        ∀ row : Fields, (remote.program now (.saveEntitlement entitlement)).Sends (.record row) →
          row.find? "created_at" = none ∧ row.find? "updated_at" = some (.text now.iso)) ∧
    (∀ counter : UsageCounter, counter.Valid → UsageCounter.ofValue (counter.toValue DateTime.wire) = .valid counter) ∧
    ∀ start finish : Option DateTime, (∀ time ∈ start, time.Expressible) → (∀ time ∈ finish, time.Expressible) →
      (∀ userId feature counter, UsageCounter.opened userId feature start finish = .valid counter →
        (remote.program now (.openCounter userId feature start finish)).Writes UsageCounter.ofValue counter) ∧
      ∀ userId plan counters, plan.freshCounters userId start finish now = .ok counters → counters ≠ [] →
        (remote.program now (.resetUsage userId plan start finish)).Writes (list UsageCounter.ofValue) counters := by
  refine ⟨fun entitlement valid => ⟨?_, fun row sent => ?_⟩, fun counter valid => ?_, fun start finish starts ends => ⟨?_, ?_⟩⟩
  · have expires := (Entitlement.valid_iff.mp valid).1
    exact Dialogue.writes_of_sends (fun rows => remote.sends_saveEntitlement now entitlement)
      (Entitlement.ofValue_entitlementRow expires clock)
  · cases (remote.sends_saveEntitlement now entitlement).mp sent
    rw [Entitlement.entitlementRow_eq]
    exact ⟨rfl, rfl⟩
  · obtain ⟨counts, starts, ends⟩ := UsageCounter.valid_iff.mp valid
    exact UsageCounter.ofValue_wire counts starts ends
  · intro userId feature counter opened
    obtain ⟨-, began, ended, -, zero⟩ := UsageCounter.opened_eq_valid_iff.mp opened
    exact Dialogue.writes_of_sends (fun rows => remote.sends_openCounter opened)
      (UsageCounter.ofValue_wire ⟨0, Int.le_refl 0, zero⟩ (starts _ began) (ends _ ended))
  · intro userId plan counters fresh carried
    refine Dialogue.writes_of_sends (fun rows => remote.sends_resetUsage fresh carried) (items_of_forall (fun counter listed => ?_) 0)
    obtain ⟨-, began, zero, ended⟩ := Plan.mem_freshCounters fresh listed
    refine UsageCounter.ofValue_wire ⟨0, Int.le_refl 0, zero⟩ (starts _ began) ?_
    rcases ended with cycle | day
    · exact ends _ cycle
    · rw [day]
      exact DateTime.dayEnd_expressible now.date

def clockBehind : DateTime :=
  { Sample.march 7 0 with
    clock := 3600000001, offset := some (-34200000000), clock_lt := by decide, offset_lt := by rintro _ ⟨⟩; decide }

def clockAnywhere : DateTime := { Sample.march 7 0 with offset := none, offset_lt := nofun }

def renewed : Entitlement :=
  ⟨"u1", "basic", clockBehind, "sub_1", "price_1", none, true, some clockAnywhere, none⟩

theorem writes_read_back_behind :
    clockBehind.iso = "2026-03-08T01:00:00.000001-09:30" ∧ clockBehind.Expressible ∧ clockAnywhere.Expressible ∧ renewed.Valid ∧
      (standard.program clockBehind (.saveEntitlement renewed)).Writes Entitlement.ofValue
        { renewed with createdAt := none, updatedAt := some clockBehind } ∧
      (standard.program clockBehind (.openCounter (.text "u1") .storageMb (some clockAnywhere) (some clockBehind))).Writes
        UsageCounter.ofValue ⟨"u1", .storageMb, .whole 0, clockAnywhere, clockBehind⟩ := by
  have behind : clockBehind.Expressible := .inr ⟨-570, rfl⟩
  have anywhere : clockAnywhere.Expressible := .inl rfl
  have valid : renewed.Valid := by
    refine Entitlement.valid_iff.mpr ⟨behind, ?_, nofun⟩
    rintro _ ⟨⟩
    exact anywhere
  obtain ⟨saved, -, cycle⟩ := writes_read_back standard behind
  have opened := (cycle (some clockAnywhere) (some clockBehind) (by rintro _ ⟨⟩; exact anywhere) (by rintro _ ⟨⟩; exact behind)).1
  exact ⟨by decide, behind, anywhere, valid, (saved renewed valid).1, opened _ _ _ rfl⟩

end RemoteStore

end PaidAccess
