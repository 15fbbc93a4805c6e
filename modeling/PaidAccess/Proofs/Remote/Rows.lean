import PaidAccess.Proofs.Calendar.Iso
import PaidAccess.Proofs.Remote.Tables
import PaidAccess.Proofs.Validation.Checked
/-!
How accounts, plans, entitlements and counters stand in rows. A row holds a thing when each of the thing's columns means what
the thing has there; whoever reads such a row finds the thing again, with the same points in time.
-/

namespace PaidAccess

def Cell.ofTime? : Option DateTime → Cell
  | some found => .time found.moment
  | none => .plain .null

namespace User

def cells (user : User) : List (String × Cell) :=
  [("id", .plain (.text user.id)), ("email", .plain (.ofText? user.email)), ("full_name", .plain (.ofText? user.fullName)),
    ("stripe_customer_id", .plain user.customerId)]

def Proper (user : User) : Prop := ∃ customer : Option String, user.customerId = .ofText? customer

end User

namespace Plan

def cells (plan : Plan) : List (String × Cell) :=
  [("id", .plain (.text plan.id)), ("stripe_product_id", .plain (.text plan.productId)),
    ("daily_quota_credits", .plain (.ofInt? plan.dailyCredits)), ("storage_quota_mb", .plain (.ofInt? plan.storageMegabytes))]

def Proper (plan : Plan) : Prop :=
  (∀ quota ∈ plan.dailyCredits, 0 ≤ quota) ∧ ∀ quota ∈ plan.storageMegabytes, 0 ≤ quota

end Plan

namespace Entitlement

def cells (entitlement : Entitlement) : List (String × Cell) :=
  [("user_id", .plain (.text entitlement.userId)), ("plan_id", .plain (.text entitlement.planId)),
    ("expires_at", .time entitlement.expiresAt.moment),
    ("stripe_subscription_id", .plain (.text entitlement.subscriptionId)),
    ("stripe_price_id", .plain (.text entitlement.priceId)),
    ("stripe_customer_id", .plain (.ofText? entitlement.customerId)),
    ("cancel_at_period_end", .plain (.bool entitlement.cancelAtPeriodEnd)),
    ("created_at", .ofTime? entitlement.createdAt), ("updated_at", .ofTime? entitlement.updatedAt)]

def Proper (entitlement : Entitlement) : Prop := entitlement.expiresAt.Zoned

end Entitlement

namespace UsageCounter

def cells (counter : UsageCounter) : List (String × Cell) :=
  [("user_id", .plain (.text counter.userId)), ("feature_key", .plain (.text counter.feature.name)),
    ("used_amount", .plain counter.used.toValue), ("cycle_started_at", .time counter.start.moment),
    ("cycle_ends_at", .time counter.finish.moment)]

def Counts (counter : UsageCounter) : Prop := ∃ used : Int, 0 ≤ used ∧ counter.used = .whole used

instance (counter : UsageCounter) : Decidable counter.Counts :=
  match amount : counter.used with
  | .whole used => decidable_of_iff (0 ≤ used) ⟨fun counts => ⟨used, counts, amount⟩, fun ⟨other, counts, whole⟩ => by
      cases amount.symm.trans whole
      exact counts⟩
  | .real _ => isFalse fun ⟨other, _, whole⟩ => by cases amount.symm.trans whole

def Proper (counter : UsageCounter) : Prop := counter.Counts ∧ counter.start.Zoned ∧ counter.finish.Zoned

end UsageCounter

/-- Whether a row holds what some columns mean. -/
def Fields.Holds (row : Fields) (cells : List (String × Cell)) : Prop :=
  ∀ entry ∈ cells, row.cell? entry.1 = some entry.2

namespace Fields

variable {row : Fields} {column : String}

theorem holds_cons {cell : Cell} {rest : List (String × Cell)} :
    row.Holds ((column, cell) :: rest) ↔ row.cell? column = some cell ∧ row.Holds rest :=
  List.forall_mem_cons

theorem Alike.holds {other : Fields} (alike : row.Alike other) {cells : List (String × Cell)} (holds : other.Holds cells) :
    row.Holds cells :=
  fun entry listed => (alike entry.1).trans (holds entry listed)

theorem find?_of_plain {value : Value} (shown : row.cell? column = some (.plain value)) : row.find? column = some value := by
  obtain ⟨found, stated, means⟩ := Option.bind_eq_some_iff.mp shown
  unfold Cell.of? at means
  split at means
  next =>
    split at means <;> simp at means
  next =>
    simp only [Option.some.injEq, Cell.plain.injEq] at means
    rw [stated, means]

theorem exists_of_time {moment : Moment} (shown : row.cell? column = some (.time moment)) :
    ∃ value time, row.find? column = some value ∧ value ≠ .null ∧ Lenient.time value = .valid time ∧
      time.moment = moment := by
  obtain ⟨found, stated, means⟩ := Option.bind_eq_some_iff.mp shown
  unfold Cell.of? at means
  split at means
  next timed =>
    split at means
    next time read =>
      simp only [Option.some.injEq, Cell.time.injEq] at means
      exact ⟨found, time, stated, timed.2, read, means⟩
    next => cases means
  next => simp at means

end Fields

namespace Checked

variable {α : Type} {row : Fields} {column : String} {read : Value → Checked α} {value : Value} {found : α}

theorem required_of_plain (shown : row.cell? column = some (.plain value)) (reads : read value = .valid found) :
    required column read row = .valid found :=
  required_of_find? (Fields.find?_of_plain shown) reads

theorem defaulted_of_plain {absent : α} (shown : row.cell? column = some (.plain value)) (reads : read value = .valid found) :
    defaulted column absent read row = .valid found :=
  defaulted_of_find? (Fields.find?_of_plain shown) reads

theorem required_of_time {moment : Moment} (shown : row.cell? column = some (.time moment)) :
    ∃ time, required column Lenient.time row = .valid time ∧ time.moment = moment := by
  obtain ⟨value, time, stated, -, reads, same⟩ := Fields.exists_of_time shown
  exact ⟨time, required_of_find? stated reads, same⟩

theorem optional_of_time {time : Option DateTime} (shown : row.cell? column = some (.ofTime? time)) :
    ∃ found, optional column Lenient.time row = .valid found ∧ Cell.ofTime? found = Cell.ofTime? time := by
  cases time with
  | none => exact ⟨none, defaulted_of_plain shown rfl, rfl⟩
  | some time =>
    obtain ⟨value, found, stated, given, reads, same⟩ := Fields.exists_of_time shown
    have nullable : nullable Lenient.time value = .valid (some found) :=
      nullable_eq_valid_iff.mpr (.inr ⟨given, found, reads, rfl⟩)
    exact ⟨some found, defaulted_of_find? stated nullable, congrArg Cell.time same⟩

theorem nullable_text (content : Option String) : nullable Lenient.text (.ofText? content) = .valid content := by
  cases content <;> rfl

end Checked

open Checked

theorem User.ofValue_of_holds {row : Fields} {user : User} (proper : user.Proper) (holds : row.Holds user.cells) :
    User.ofValue (.record row) = .valid user := by
  obtain ⟨customer, pays⟩ := proper
  simp only [cells, Fields.holds_cons] at holds
  obtain ⟨id, email, name, payer, -⟩ := holds
  have given : customerOfValue user.customerId = .valid user.customerId := by
    rw [customerOfValue, pays, nullable_text]
    rfl
  have id : required "id" Lenient.text row = .valid user.id := required_of_plain id rfl
  have email : optional "email" Lenient.text row = .valid user.email := defaulted_of_plain email (nullable_text _)
  have name : optional "full_name" Lenient.text row = .valid user.fullName := defaulted_of_plain name (nullable_text _)
  have payer : defaulted "stripe_customer_id" .null customerOfValue row = .valid user.customerId :=
    defaulted_of_plain payer given
  simp only [User.ofValue, model, id, email, name, payer]
  rfl

theorem Plan.ofValue_of_holds {row : Fields} {plan : Plan} (proper : plan.Proper) (holds : row.Holds plan.cells) :
    Plan.ofValue (.record row) = .valid plan := by
  have quota : ∀ quota : Option Int, (∀ number ∈ quota, 0 ≤ number) →
      nullable (Lenient.integerFrom 0) (.ofInt? quota) = .valid quota := by
    intro quota positive
    cases quota with
    | none => rfl
    | some number => exact congrArg (some <$> ·) (if_pos (positive number rfl))
  simp only [cells, Fields.holds_cons] at holds
  obtain ⟨id, product, credits, storage, -⟩ := holds
  have id : required "id" Lenient.text row = .valid plan.id := required_of_plain id rfl
  have product : required "stripe_product_id" Lenient.text row = .valid plan.productId := required_of_plain product rfl
  have credits : optional "daily_quota_credits" (Lenient.integerFrom 0) row = .valid plan.dailyCredits :=
    defaulted_of_plain credits (quota _ proper.1)
  have storage : optional "storage_quota_mb" (Lenient.integerFrom 0) row = .valid plan.storageMegabytes :=
    defaulted_of_plain storage (quota _ proper.2)
  simp only [Plan.ofValue, model, id, product, credits, storage]
  rfl

theorem Entitlement.ofValue_of_holds {row : Fields} {entitlement : Entitlement} (holds : row.Holds entitlement.cells) :
    ∃ found, Entitlement.ofValue (.record row) = .valid found ∧ found.cells = entitlement.cells := by
  simp only [cells, Fields.holds_cons] at holds
  obtain ⟨user, plan, expires, subscription, price, customer, cancel, created, updated, -⟩ := holds
  have user : required "user_id" Lenient.text row = .valid entitlement.userId := required_of_plain user rfl
  have plan : required "plan_id" Lenient.text row = .valid entitlement.planId := required_of_plain plan rfl
  obtain ⟨expiry, expires, sameExpiry⟩ := required_of_time expires
  have subscription : required "stripe_subscription_id" Lenient.text row = .valid entitlement.subscriptionId :=
    required_of_plain subscription rfl
  have price : required "stripe_price_id" Lenient.text row = .valid entitlement.priceId := required_of_plain price rfl
  have customer : optional "stripe_customer_id" Lenient.text row = .valid entitlement.customerId :=
    defaulted_of_plain customer (nullable_text _)
  have cancel : defaulted "cancel_at_period_end" false Lenient.flag row = .valid entitlement.cancelAtPeriodEnd :=
    defaulted_of_plain cancel rfl
  obtain ⟨creation, created, sameCreation⟩ := optional_of_time created
  obtain ⟨update, updated, sameUpdate⟩ := optional_of_time updated
  refine ⟨{ entitlement with expiresAt := expiry, createdAt := creation, updatedAt := update }, ?_, ?_⟩
  · simp only [Entitlement.ofValue, model, user, plan, expires, subscription, price, customer, cancel, created, updated]
    rfl
  · simp only [cells, sameExpiry, sameCreation, sameUpdate]

theorem FeatureKey.ofValue_name (feature : FeatureKey) : FeatureKey.ofValue (.text feature.name) = .valid feature := by
  have unmarked : Surrogate.Unmarked feature.name := by
    cases feature <;> (unfold Surrogate.Unmarked; decide)
  refine (if_pos unmarked.isWhole).trans ?_
  cases feature <;> rfl

theorem UsageCounter.ofValue_of_holds {row : Fields} {counter : UsageCounter} (proper : counter.Proper)
    (holds : row.Holds counter.cells) :
    ∃ found, UsageCounter.ofValue (.record row) = .valid found ∧ found.cells = counter.cells := by
  obtain ⟨⟨used, positive, whole⟩, -, -⟩ := proper
  simp only [cells, Fields.holds_cons] at holds
  obtain ⟨user, feature, amount, starts, ends, -⟩ := holds
  have reads : UsageCounter.usedOfValue counter.used.toValue = .valid counter.used := by
    rw [whole]
    exact congrArg (Amount.whole <$> ·) (if_pos positive)
  have user : required "user_id" Lenient.text row = .valid counter.userId := required_of_plain user rfl
  have feature : required "feature_key" FeatureKey.ofValue row = .valid counter.feature :=
    required_of_plain feature (FeatureKey.ofValue_name _)
  have amount : defaulted "used_amount" (.whole 0) UsageCounter.usedOfValue row = .valid counter.used :=
    defaulted_of_plain amount reads
  obtain ⟨start, starts, sameStart⟩ := required_of_time starts
  obtain ⟨finish, ends, sameFinish⟩ := required_of_time ends
  refine ⟨{ counter with start := start, finish := finish }, ?_, ?_⟩
  · simp only [UsageCounter.ofValue, model, user, feature, amount, starts, ends]
    rfl
  · simp only [cells, sameStart, sameFinish]

theorem UsageCounter.ofValue_of_negative {row : Fields} {used : Int} (shown : row.cell? "used_amount" = some (.plain (.int used)))
    (negative : used < 0) (found : UsageCounter) : UsageCounter.ofValue (.record row) ≠ .valid found := by
  have amount : defaulted "used_amount" (.whole 0) UsageCounter.usedOfValue row =
      .faulty [⟨[.field "used_amount"], .greaterThanEqual⟩] := by
    have low : Lenient.integerFrom 0 (.int used) = fault .greaterThanEqual := if_neg (Int.not_le.mpr negative)
    unfold defaulted
    rw [Fields.find?_of_plain shown]
    dsimp only [UsageCounter.usedOfValue]
    rw [low]
    rfl
  intro passes
  simp only [UsageCounter.ofValue, model, amount, seq_eq_valid_iff] at passes
  obtain ⟨_, _, ⟨_, _, ⟨_, _, -, counts, -⟩, -⟩, -⟩ := passes
  cases counts

/-- How things of one kind stand in rows: they are read from them with the same meaning. -/
structure Kind (α : Type) where
  cells : α → List (String × Cell)
  Proper : α → Prop
  /-- Whether two things mean the same: whether they differ at most in how their times are written. -/
  Same : α → α → Prop
  read : Value → Checked α
  read_of_holds : ∀ {row thing}, Proper thing → Fields.Holds row (cells thing) →
    ∃ found, read (.record row) = .valid found ∧ Same found thing
  cells_ne_nil : ∀ thing, cells thing ≠ []

namespace Kind

def users : Kind User where
  cells := User.cells
  Proper := User.Proper
  Same := Eq
  read := User.ofValue
  read_of_holds proper holds := ⟨_, User.ofValue_of_holds proper holds, rfl⟩
  cells_ne_nil _ := List.cons_ne_nil _ _

def plans : Kind Plan where
  cells := Plan.cells
  Proper := Plan.Proper
  Same := Eq
  read := Plan.ofValue
  read_of_holds proper holds := ⟨_, Plan.ofValue_of_holds proper holds, rfl⟩
  cells_ne_nil _ := List.cons_ne_nil _ _

def entitlements : Kind Entitlement where
  cells := Entitlement.cells
  Proper := Entitlement.Proper
  Same first second := first.cells = second.cells
  read := Entitlement.ofValue
  read_of_holds _ holds := Entitlement.ofValue_of_holds holds
  cells_ne_nil _ := List.cons_ne_nil _ _

def counters : Kind UsageCounter where
  cells := UsageCounter.cells
  Proper := UsageCounter.Proper
  Same first second := first.cells = second.cells
  read := UsageCounter.ofValue
  read_of_holds proper holds := UsageCounter.ofValue_of_holds proper holds
  cells_ne_nil _ := List.cons_ne_nil _ _

variable {α : Type} (kind : Kind α)

/-- Whether a row holds a thing of the kind. -/
structure Stands (row : Fields) (thing : α) : Prop where
  proper : kind.Proper thing
  holds : row.Holds (kind.cells thing)

/-- Whether a value shows a row that holds a thing of the kind. -/
def Shown (value : Value) (thing : α) : Prop := ∃ row, value = .record row ∧ kind.Stands row thing

variable {kind} {row shown : Fields} {value : Value} {thing : α}

theorem Stands.of_alike (stands : kind.Stands row thing) (alike : shown.Alike row) : kind.Stands shown thing :=
  ⟨stands.1, alike.holds stands.2⟩

theorem Stands.cell? (stands : kind.Stands row thing) {column : String} {cell : Cell}
    (stated : (kind.cells thing).lookup column = some cell) : row.cell? column = some cell := by
  obtain ⟨before, later, listed, -⟩ := List.lookup_eq_some_iff.mp stated
  exact stands.2 (column, cell) (listed ▸ List.mem_append_right before List.mem_cons_self)

theorem Shown.of_stands (shows : Shows value row) (stands : kind.Stands row thing) : kind.Shown value thing := by
  obtain ⟨shown, rfl, alike⟩ := shows
  exact ⟨shown, rfl, stands.of_alike alike⟩

theorem Shown.read (shown : kind.Shown value thing) :
    ∃ found, (kind.read value).outcome = .ok found ∧ kind.Same found thing := by
  obtain ⟨row, rfl, proper, holds⟩ := shown
  obtain ⟨found, reads, same⟩ := kind.read_of_holds proper holds
  exact ⟨found, by rw [reads]; rfl, same⟩

theorem Shown.truthy (shown : kind.Shown value thing) : value.truthy = true := by
  obtain ⟨row, rfl, -, holds⟩ := shown
  obtain ⟨entry, rest, listed⟩ := List.exists_cons_of_ne_nil (kind.cells_ne_nil thing)
  have first := holds entry (listed ▸ List.mem_cons_self)
  cases row with
  | nil => cases first
  | cons field fields => rfl

theorem filter_truthy {row : Option Value} {thing : Option α} (shown : Option.Rel kind.Shown row thing) :
    row.filter (·.truthy) = row := by
  cases shown with
  | none => rfl
  | some shown => rw [Option.filter_some, shown.truthy]; rfl

end Kind

end PaidAccess
