import PaidAccess.Proofs.Calendar.Epoch
import PaidAccess.Proofs.Reconciliation.Effect
import PaidAccess.Proofs.Store.Search
/-!
What a well-formed payload of a subscription states, as its structure shows it: its status, the price and
the product of its first item, and each bound of its period at the places where a bound may stand. The
normal form that the provider's client makes of the payload holds exactly that.
-/

namespace PaidAccess

theorem Checked.nullable_ofText? (content : Option String) (step : PathStep) :
    (Checked.nullable Lenient.text (.ofText? content)).within step = .valid content := by
  cases content <;> rfl

namespace Payload

/-- An object and its fields: a record, a handle on one, or null, which has none. -/
inductive Opens : Value → Fields → Prop where
  | null : Opens .null []
  | record (fields : Fields) : Opens (.record fields) fields
  | handle (fields : Fields) : Opens (.handle (.record fields)) fields

/-- The id of an object that is given by its id alone or as a whole. -/
inductive Names : Value → Option String → Prop where
  | text (id : String) : Names (.text id) (some id)
  | object {value : Value} {fields : Fields} {id : Option String} (opens : Opens value fields)
      (bears : fields.get "id" = .ofText? id) : Names value id

inductive Leads : Value → Option Value → Prop where
  | null : Leads .null none
  | list (items : List Value) : Leads (.list items) items.head?

/-- A count of seconds within the calendar. Zero counts as missing. -/
inductive Counts : Value → Option Int → Prop where
  | null : Counts .null none
  | zero : Counts (.int 0) none
  | seconds {count : Int} (nonzero : count ≠ 0) (countable : DateTime.Countable count) :
      Counts (.int count) (some count)

inductive Priced : Value → Option String → Option String → Prop where
  | text (id : String) : Priced (.text id) (some id) none
  | object {value : Value} {fields : Fields} {id product : Option String} (opens : Opens value fields)
      (bears : fields.get "id" = .ofText? id) (sells : Names (fields.get "product") product) :
      Priced value id product

inductive Billed : Value → Option Int → Option Int → Prop where
  | text (id : String) : Billed (.text id) none none
  | object {value : Value} {fields lines line period : Fields} {first : Option Value} {start finish : Option Int}
      (opens : Opens value fields) (lists : Opens (fields.get "lines") lines) (leads : Leads (lines.get "data") first)
      (item : Opens (first.getD .null) line) (bounds : Opens (line.get "period") period)
      (begins : Counts (period.get "start") start) (ends : Counts (period.get "end") finish) :
      Billed value start finish

structure Bound where
  onSubscription : Option Int
  onItem : Option Int
  onInvoice : Option Int

/-- The bound that counts: that of the subscription, else that of its first item, else that of the first line
of its latest invoice. -/
def Bound.first (bound : Bound) : Option Int := bound.onSubscription.or (bound.onItem.or bound.onInvoice)

/-- What a well-formed payload of a subscription states. -/
structure Statement (payload : Value) where
  fields : Fields
  items : Fields
  leading : Option Value
  item : Fields
  metadata : Fields
  status : String
  customerId : Option String
  priceId : Option String
  productId : Option String
  start : Bound
  finish : Bound
  opens : Opens payload fields
  lists : Opens (fields.get "items") items
  leads : Leads (items.get "data") leading
  leader : Opens (leading.getD .null) item
  tagged : Opens (fields.get "metadata") metadata
  stands : fields.get "status" = .text status
  pays : Names (fields.get "customer") customerId
  priced : Priced (item.get "price") priceId productId
  begins : Counts (fields.get "current_period_start") start.onSubscription
  ends : Counts (fields.get "current_period_end") finish.onSubscription
  itemBegins : Counts (item.get "current_period_start") start.onItem
  itemEnds : Counts (item.get "current_period_end") finish.onItem
  billed : Billed (fields.get "latest_invoice") start.onInvoice finish.onInvoice

def Statement.cancels {payload : Value} (statement : Statement payload) : Bool :=
  (statement.fields.get "cancel_at_period_end").truthy

variable {value payload : Value} {fields : Fields} {id product : Option String} {count : Option Int}

namespace Opens

theorem contents (opens : Opens value fields) : contents value = .ok (.record fields) := by
  cases opens <;> rfl

theorem expand (opens : Opens value fields) : expand value = .ok fields := by
  cases opens <;> rfl

theorem idOf (opens : Opens value fields) : idOf value = .ok (fields.get "id") := by
  cases opens <;> rfl

theorem productOf (opens : Opens value fields) : productOf value = Payload.idOf (fields.get "product") := by
  cases opens <;> rfl

theorem invoicePeriod (opens : Opens value fields) : invoicePeriod value = Payload.invoicePeriod (.record fields) := by
  cases opens <;> rfl

end Opens

theorem Names.idOf (names : Names value id) : idOf value = .ok (.ofText? id) := by
  cases names with
  | text => rfl
  | object opens bears => rw [opens.idOf, bears]

theorem Leads.first? {leading : Option Value} (leads : Leads value leading) : first? value = .ok leading := by
  cases leads with
  | null => rfl
  | list items => cases items <;> rfl

namespace Counts

def time (count : Option Int) : Option DateTime := count.bind DateTime.ofSeconds?

theorem truthy_eq (counts : Counts value count) : value.truthy = count.isSome := by
  cases counts with
  | null => rfl
  | zero => rfl
  | seconds nonzero => simpa [Value.truthy] using nonzero

theorem exists_time {seconds : Int} (counts : Counts value (some seconds)) :
    ∃ time, DateTime.ofSeconds? seconds = some time := by
  cases counts with
  | seconds nonzero countable => exact DateTime.exists_ofSeconds? countable

theorem time?_eq (counts : Counts value count) : time? value = .ok (time count) := by
  cases counts with
  | null => rfl
  | zero => rfl
  | @seconds seconds nonzero countable =>
    obtain ⟨time, counted, read⟩ := timeOfMicros_of_countable countable
    have filled : (Value.int seconds).truthy = true := by simpa [Value.truthy] using nonzero
    unfold time?
    simp only [filled, ↓reduceIte, read, Counts.time, Option.bind_some, counted]
    rfl

theorem either {other : Value} {second : Option Int} (counts : Counts value count) (later : Counts other second) :
    Counts (Payload.either value other) (count.or second) := by
  unfold Payload.either
  rw [counts.truthy_eq]
  cases count with
  | none => exact later
  | some seconds => exact counts

theorem time_or {second : Option Int} (counts : Counts value count) :
    (time count).or (time second) = time (count.or second) := by
  cases count with
  | none => rfl
  | some seconds =>
    obtain ⟨time, counted⟩ := counts.exists_time
    simp [Counts.time, counted]

end Counts

namespace Bound

variable {bound : Bound} {first second third : Value}

theorem time_first (here : Counts first bound.onSubscription) (there : Counts second bound.onItem) :
    (Counts.time (bound.onSubscription.or bound.onItem)).or (Counts.time bound.onInvoice) = Counts.time bound.first := by
  rw [(here.either there).time_or, Option.or_assoc]
  rfl

theorem exists_time (here : Counts first bound.onSubscription) (there : Counts second bound.onItem)
    (last : Counts third bound.onInvoice) {seconds : Int} (known : bound.first = some seconds) :
    ∃ time, DateTime.ofSeconds? seconds = some time := by
  have counts := (here.either there).either last
  rw [Option.or_assoc] at counts
  rw [show bound.onSubscription.or (bound.onItem.or bound.onInvoice) = some seconds from known] at counts
  exact counts.exists_time

end Bound

theorem Priced.idOf (priced : Priced value id product) : Payload.idOf value = .ok (.ofText? id) := by
  cases priced with
  | text => rfl
  | object opens bears => exact (Names.object opens bears).idOf

theorem Priced.productOf (priced : Priced value id product) : productOf value = .ok (.ofText? product) := by
  cases priced with
  | text => rfl
  | object opens bears sells => rw [opens.productOf, sells.idOf]

theorem Opens.eq_nil (opens : Opens .null fields) : fields = [] := by
  cases opens
  rfl

theorem Counts.eq_none (counts : Counts .null count) : count = none := by
  cases counts
  rfl

theorem invoicePeriod_of_lines {lines line period : Fields} {first : Option Value} {start finish : Option Int}
    (lists : Opens (fields.get "lines") lines) (leads : Leads (lines.get "data") first)
    (item : Opens (first.getD .null) line) (bounds : Opens (line.get "period") period)
    (begins : Counts (period.get "start") start) (ends : Counts (period.get "end") finish) :
    invoicePeriod (.record fields) = .ok (Counts.time start, Counts.time finish) := by
  have opened : Payload.expand (.record fields) = .ok fields := rfl
  unfold Payload.invoicePeriod
  simp only [opened, lists.expand, leads.first?, bind, Except.bind]
  cases first with
  | none =>
    obtain rfl := item.eq_nil
    obtain rfl := bounds.eq_nil
    obtain rfl := begins.eq_none
    obtain rfl := ends.eq_none
    rfl
  | some value =>
    rw [Option.getD_some] at item
    simp only [item.expand, bounds.expand, begins.time?_eq, ends.time?_eq]
    rfl

theorem Billed.invoicePeriod {start finish : Option Int} (billed : Billed value start finish) :
    invoicePeriod value = .ok (Counts.time start, Counts.time finish) := by
  cases billed with
  | text => rfl
  | object opens lists leads item bounds begins ends =>
    rw [opens.invoicePeriod, invoicePeriod_of_lines lists leads item bounds begins ends]

theorem Billed.exists_counts {start finish : Option Int} (billed : Billed value start finish) :
    (∃ bound, Counts bound start) ∧ ∃ bound, Counts bound finish := by
  cases billed with
  | text => exact ⟨⟨_, .null⟩, _, .null⟩
  | object opens lists leads item bounds begins ends => exact ⟨⟨_, begins⟩, _, ends⟩

variable (statement : Statement payload)

namespace Statement

def normal : ProviderSubscription where
  id := textOf "id" statement.fields
  customerId := statement.customerId
  status := statement.status
  cancelAtPeriodEnd := statement.cancels
  priceId := statement.priceId
  productId := statement.productId
  periodStart := Counts.time (statement.start.onSubscription.or statement.start.onItem)
  periodEnd := Counts.time (statement.finish.onSubscription.or statement.finish.onItem)
  invoicePeriodStart := Counts.time statement.start.onInvoice
  invoicePeriodEnd := Counts.time statement.finish.onInvoice
  metadata := statement.metadata.map fun field => (field.1, field.2.display)

theorem status_eq : textOf "status" statement.fields = statement.status := by
  have stands := statement.stands
  unfold Fields.get at stands
  unfold textOf Fields.find?
  cases found : statement.fields.lookup "status" with
  | none =>
    rw [found] at stands
    cases stands
  | some value =>
    rw [found] at stands
    rw [show value = .text statement.status from stands]
    rfl

theorem leader_eq : (match statement.leading with
      | some item => expand item
      | none => pure []) = (.ok statement.item : Outcome Fields) := by
  have leader := statement.leader
  cases found : statement.leading with
  | none =>
    rw [found] at leader
    rw [leader.eq_nil]
    rfl
  | some item =>
    rw [found] at leader
    exact leader.expand

/-- A well-formed payload is read as what it states. -/
theorem subscription_eq : subscription payload = .ok statement.normal := by
  have tagged : record (.record statement.metadata) = .ok statement.metadata := rfl
  have start := statement.begins.either statement.itemBegins
  have finish := statement.ends.either statement.itemEnds
  have leader := statement.leader_eq
  unfold subscription normal
  simp only [statement.opens.expand, statement.lists.expand, statement.leads.first?, bind, Except.bind]
  cases found : statement.leading
  -- Whether there is a first item or not, what is made of its fields is the same.
  all_goals
    rw [found] at leader
    dsimp only at leader ⊢
    simp only [leader, statement.priced.idOf, statement.priced.productOf, statement.billed.invoicePeriod, statement.tagged.contents,
      statement.pays.idOf, start.time?_eq, finish.time?_eq, tagged, Checked.nullable_ofText?, statement.status_eq]
    rfl

theorem start?_eq : statement.normal.start? = Counts.time statement.start.first :=
  Bound.time_first statement.begins statement.itemBegins

theorem finish?_eq : statement.normal.finish? = Counts.time statement.finish.first :=
  Bound.time_first statement.ends statement.itemEnds

theorem exists_start {seconds : Int} (first : statement.start.first = some seconds) :
    ∃ time, DateTime.ofSeconds? seconds = some time := by
  obtain ⟨⟨_, invoiced⟩, -⟩ := statement.billed.exists_counts
  exact Bound.exists_time statement.begins statement.itemBegins invoiced first

theorem exists_finish {seconds : Int} (first : statement.finish.first = some seconds) :
    ∃ time, DateTime.ofSeconds? seconds = some time := by
  obtain ⟨-, _, invoiced⟩ := statement.billed.exists_counts
  exact Bound.exists_time statement.ends statement.itemEnds invoiced first

end Statement

end Payload

end PaidAccess
