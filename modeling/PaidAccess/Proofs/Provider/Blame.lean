import PaidAccess.Provider.Tables
import PaidAccess.Provider.Payload
/-!
Failures that blame the client. Some billing errors tell the client to be at fault for what was asked. Reading what the
provider sends never ends in one of them, whatever it is.
-/

namespace PaidAccess

/-- A failure that does not blame the client. -/
def Failure.Blameless : Failure → Prop
  | .billing error => error.kind = .internal
  | _ => True

def Outcome.Blameless {α : Type} : Outcome α → Prop
  | .ok _ => True
  | .error failure => failure.Blameless

namespace Outcome.Blameless

variable {α β : Type}

theorem failed {outcome : Outcome α} (blameless : Outcome.Blameless outcome) {failure : Failure}
    (fails : outcome = .error failure) : failure.Blameless := by
  subst fails
  exact blameless

theorem bind {outcome : Outcome α} {next : α → Outcome β} (first : Outcome.Blameless outcome)
    (rest : ∀ value, Outcome.Blameless (next value)) : Outcome.Blameless (outcome >>= next) := by
  cases outcome with
  | ok value => exact rest value
  | error => exact first

theorem map {outcome : Outcome α} (change : α → β) (blameless : Outcome.Blameless outcome) :
    Outcome.Blameless (change <$> outcome) := by
  cases outcome with
  | ok => trivial
  | error => exact blameless

theorem mapM {build : α → Outcome β} (each : ∀ item, Outcome.Blameless (build item)) (items : List α) :
    Outcome.Blameless (items.mapM build) := by
  induction items with
  | nil => trivial
  | cons item rest ih =>
    rw [List.mapM_cons]
    exact .bind (each item) fun _ => .bind ih fun _ => trivial

theorem filter {test : α → Outcome Bool} (each : ∀ item, Outcome.Blameless (test item)) (items : List α) :
    Outcome.Blameless (Outcome.filter test items) := by
  induction items with
  | nil => trivial
  | cons item rest ih => exact .bind (each item) fun _ => .bind ih fun _ => trivial

theorem checked (checked : Checked α) : Outcome.Blameless checked.outcome := by
  cases checked <;> trivial

section Times

theorem yearFailure (year : Int) : (DateTime.yearFailure year).Blameless := by
  unfold DateTime.yearFailure
  split <;> trivial

theorem epochMillis (time : DateTime) : Outcome.Blameless time.epochMillis := by
  unfold DateTime.epochMillis
  split
  next => trivial
  next => exact yearFailure 0

theorem before (first second : DateTime) : Outcome.Blameless (first.before second) := by
  unfold DateTime.before
  split <;> trivial

theorem atMost (first second : DateTime) : Outcome.Blameless (first.atMost second) := by
  unfold DateTime.atMost
  split <;> trivial

end Times

section Payloads

theorem record (value : Value) : Outcome.Blameless (Payload.record value) := by
  cases value <;> trivial

theorem contents (value : Value) : Outcome.Blameless (Payload.contents value) := by
  cases value <;> trivial

theorem expand (value : Value) : Outcome.Blameless (Payload.expand value) := .bind (.contents value) .record

theorem recordOrEmpty (value : Value) : Outcome.Blameless (Payload.recordOrEmpty value) := by
  unfold Payload.recordOrEmpty
  split
  next => exact .record value
  next => trivial

theorem idOf (value : Value) : Outcome.Blameless (Payload.idOf value) := by
  unfold Payload.idOf
  split
  next => trivial
  next => trivial
  next => exact .bind (.expand _) fun _ => trivial

theorem first? (value : Value) : Outcome.Blameless (Payload.first? value) := by
  unfold Payload.first?
  split
  next => split <;> trivial
  next => trivial

theorem timeOfMicros (micros : Int) : Outcome.Blameless (Payload.timeOfMicros micros) := by
  unfold Payload.timeOfMicros
  dsimp only
  split
  next =>
    split
    next => trivial
    next => split <;> trivial
  next => trivial

theorem microsOfReal (number : Binary64) : Outcome.Blameless (Payload.microsOfReal number) := by
  unfold Payload.microsOfReal
  split
  next => trivial
  next => split <;> trivial

theorem time? (timestamp : Value) : Outcome.Blameless (Payload.time? timestamp) := by
  unfold Payload.time?
  split
  next =>
    split
    next => exact .map _ (.timeOfMicros _)
    next => exact .map _ (.timeOfMicros _)
    next => exact .bind (.microsOfReal _) fun _ => .map _ (.timeOfMicros _)
    next => trivial
  next => trivial

theorem invoicePeriod (invoice : Value) : Outcome.Blameless (Payload.invoicePeriod invoice) := by
  unfold Payload.invoicePeriod
  split
  next => trivial
  next => trivial
  next =>
    refine .bind (.expand _) fun _ => .bind (.expand _) fun _ => .bind (.first? _) fun line => ?_
    cases line with
    | none => trivial
    | some line =>
      exact .bind (.expand _) fun _ => .bind (.expand _) fun _ => .bind (.time? _) fun _ => .bind (.time? _) fun _ =>
        trivial

theorem productOf (price : Value) : Outcome.Blameless (Payload.productOf price) := by
  unfold Payload.productOf
  split
  next => trivial
  next => trivial
  next => exact .bind (.expand _) fun _ => .idOf _

theorem subscription (value : Value) : Outcome.Blameless (Payload.subscription value) := by
  refine .bind (.expand value) fun fields => .bind (.expand _) fun items => .bind (.first? _) fun item => ?_
  cases item
  -- what is made of the first item is the same whether there is one or not
  all_goals
    refine .bind (by first | exact .expand _ | trivial) fun item => ?_
    refine .bind (.idOf _) fun _ => .bind (.productOf _) fun _ => ?_
    refine .bind (.invoicePeriod _) fun _ => .bind (.contents _) fun _ => .bind (.idOf _) fun _ => ?_
    exact .bind (.time? _) fun _ => .bind (.time? _) fun _ => .bind (.record _) fun _ => .checked _

theorem metadataUserId (fields : Fields) : Outcome.Blameless (Payload.metadataUserId fields) :=
  .bind (.recordOrEmpty _) fun _ => trivial

theorem invoiceSubscriptionId (invoice : Value) : Outcome.Blameless (Payload.invoiceSubscriptionId invoice) := by
  refine .bind (.record invoice) fun fields => .bind (.idOf _) fun direct => ?_
  split
  next => trivial
  next => exact .bind (.recordOrEmpty _) fun _ => .bind (.recordOrEmpty _) fun _ => .idOf _

end Payloads

theorem answer (tables : ProviderTables) (served : List ProviderRequest) (request : ProviderRequest) :
    Outcome.Blameless (tables.answer served request) := by
  have entry : ∀ {α : Type} (table : OrderedMap String α) (key : Value),
      Outcome.Blameless (ProviderTables.entry? table key) := fun _ key => by cases key <;> trivial
  have retrieve : ∀ (kind : String) (table : OrderedMap String Value) (id : Value),
      Outcome.Blameless (tables.retrieve kind table id) := by
    intro kind table id
    refine .bind (entry table id) fun found => ?_
    cases found <;> trivial
  cases request with
  | retrieveSubscription id => exact retrieve _ _ id
  | retrievePrice id => exact retrieve _ _ id
  | listCustomers email => exact .bind (entry _ email) fun _ => trivial
  | openEvent payload signature secret tolerance =>
    unfold ProviderTables.answer
    dsimp only
    split
    next => trivial
    next => split <;> trivial
  | _ => trivial

end Outcome.Blameless

end PaidAccess
