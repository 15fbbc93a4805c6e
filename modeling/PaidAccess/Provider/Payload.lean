import PaidAccess.Event
import PaidAccess.Failure
/-!
Bringing the provider's payloads into normal form. An object may arrive as its id, as a record or as
an expandable handle, and the billing period may be stated at three places; none of this is visible
in the normal form.
-/

namespace PaidAccess.Payload

def record : Value → Outcome Fields
  | .record fields => .ok fields
  | _ => .error .noSuchMember

def recordOrEmpty (value : Value) : Outcome Fields :=
  if value.truthy then record value else .ok []

/-- What an object in any representation holds, an empty record for null. What a handle holds is not
looked at. -/
def contents : Value → Outcome Value
  | .null => .ok (.record [])
  | .record fields => .ok (.record fields)
  | .handle contents => .ok contents
  | _ => .error .noSuchMember

def expand (value : Value) : Outcome Fields := do record (← contents value)

def idOf : Value → Outcome Value
  | .null => .ok .null
  | .text id => .ok (.text id)
  | value => do
      let fields ← expand value
      return fields.get "id"

def first? (value : Value) : Outcome (Option Value) :=
  if value.truthy then
    match value with
    | .list (item :: _) => .ok (some item)
    | .text _ => .error .noSuchMember
    | .record _ => .error .noSuchKey
    | _ => .error .mismatch
  else .ok none

def either (first second : Value) : Value := if first.truthy then first else second

/-- A year as it is told to be out of range: as a signed number of 32 bits. -/
def toldYear (year : Int) : Int := Int.bmod year (Nat.pow 2 32)

/-- The universal time at a count of microseconds since 1970. Years outside the calendar are refused,
and those beyond the range of the platform's calendar are a failure of the platform. -/
def timeOfMicros (micros : Int) : Outcome DateTime :=
  let seconds := micros / microsPerSecond
  if -Int.pow 2 63 ≤ seconds ∧ seconds < Int.pow 2 63 then
    let year := DateTime.epochYear seconds
    if year - 1900 < -Int.pow 2 31 ∨ Int.pow 2 31 ≤ year - 1900 then
      .error (.platform "[Errno 75] Value too large for defined data type")
    else
      match DateTime.ofEpoch? micros with
      | some time => .ok time
      | none => .error (.rejected s!"year {toldYear year} is out of range")
  else .error .overflow

/-- The microseconds of a floating point count of seconds. The fraction is scaled and then rounded to
the nearest, ties to even. -/
def microsOfReal (number : Binary64) : Outcome Int :=
  match number.truncate?, number.remainder? with
  | some whole, some (negative, part, unit) =>
      let fraction := (Binary64.ofFraction false part unit).scaleBy microsPerSecond
      let micros := (fraction.roundEven?).getD 0
      .ok (whole * microsPerSecond + Binary64.signed negative micros)
  | _, _ =>
      match number with
      | .nan => .error (.rejected "Invalid value NaN (not a number)")
      | _ => .error .overflow

/-- The point in time of a timestamp. A timestamp that does not count as present is none. -/
def time? (timestamp : Value) : Outcome (Option DateTime) :=
  if timestamp.truthy then
    match timestamp with
    | .int seconds => some <$> timeOfMicros (seconds * microsPerSecond)
    | .bool _ => some <$> timeOfMicros microsPerSecond
    | .real number => do
        let micros ← microsOfReal number
        some <$> timeOfMicros micros
    | _ => .error .mismatch
  else .ok none

def invoicePeriod : Value → Outcome (Option DateTime × Option DateTime)
  | .null => .ok (none, none)
  | .text _ => .ok (none, none)
  | invoice => do
      let invoice ← expand invoice
      let lines ← expand (invoice.get "lines")
      match ← first? (lines.get "data") with
      | none => return (none, none)
      | some line =>
          let line ← expand line
          let period ← expand (line.get "period")
          let start ← time? (period.get "start")
          let finish ← time? (period.get "end")
          return (start, finish)

def productOf : Value → Outcome Value
  | .null => .ok .null
  | .text _ => .ok .null
  | price => do
      let price ← expand price
      idOf (price.get "product")

def textOf (name : String) (fields : Fields) : String :=
  match fields.find? name with
  | some value => value.display
  | none => ""

/-- A subscription in normal form. A period on the subscription wins over one on its first item. -/
def subscription (value : Value) : Outcome ProviderSubscription := do
  let fields ← expand value
  let items ← expand (fields.get "items")
  let item ← match ← first? (items.get "data") with
    | some item => expand item
    | none => pure []
  let price := item.get "price"
  let priceId ← idOf price
  let productId ← productOf price
  let start := either (fields.get "current_period_start") (item.get "current_period_start")
  let finish := either (fields.get "current_period_end") (item.get "current_period_end")
  let invoice ← invoicePeriod (fields.get "latest_invoice")
  let metadata ← contents (fields.get "metadata")
  let customerId ← idOf (fields.get "customer")
  let start ← time? start
  let finish ← time? finish
  let metadata ← record metadata
  let checked :=
    (fun customerId priceId productId =>
      ({ id := textOf "id" fields, customerId := customerId, status := textOf "status" fields
         cancelAtPeriodEnd := (fields.get "cancel_at_period_end").truthy
         priceId := priceId, productId := productId, periodStart := start, periodEnd := finish
         invoicePeriodStart := invoice.1, invoicePeriodEnd := invoice.2
         metadata := metadata.map fun field => (field.1, field.2.display) } : ProviderSubscription))
      <$> (Checked.nullable Lenient.text customerId).within (.field "customer_id")
      <*> (Checked.nullable Lenient.text priceId).within (.field "price_id")
      <*> (Checked.nullable Lenient.text productId).within (.field "product_id")
  checked.outcome

def price (value : Value) : Outcome ProviderPrice := do
  let fields ← expand value
  let productId ← idOf (fields.get "product")
  if !productId.truthy then
    throw (.billing (.priceWithoutProduct (fields.get "id")))
  let recurring ← expand (fields.get "recurring")
  let checked :=
    (fun productId interval =>
      ({ id := textOf "id" fields, productId := productId, interval := interval } : ProviderPrice))
      <$> (Lenient.text productId).within (.field "product_id")
      <*> (Checked.nullable Lenient.text (recurring.get "interval")).within (.field "recurring_interval")
  checked.outcome

def invoiceSubscriptionId (invoice : Value) : Outcome Value := do
  let fields ← record invoice
  let direct ← idOf (fields.get "subscription")
  if direct.truthy then return direct
  let parent ← recordOrEmpty (fields.get "parent")
  let details ← recordOrEmpty (parent.get "subscription_details")
  idOf (details.get "subscription")

def metadataUserId (fields : Fields) : Outcome Value := do
  let metadata ← recordOrEmpty (fields.get "metadata")
  return metadata.get "user_id"

end PaidAccess.Payload
