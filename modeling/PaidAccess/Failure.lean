import PaidAccess.Validation.Checked
import PaidAccess.Value.Display
import PaidAccess.Text.Charset
import PaidAccess.Calendar.Iso
import PaidAccess.Calendar.Epoch
/-!
What can go wrong. Billing errors are outcomes that a caller is told about, with a status for clients
and a context for operators; every other failure is a fault of a value or of a dependency.
-/

namespace PaidAccess

/-- How clients see a billing error. -/
inductive BillingError.Class where
  | badRequest
  | notFound
  | internal
  deriving DecidableEq

/-- A refusal of a request or a failure to serve it. -/
inductive BillingError where
  /-- Neither a signed-in user nor an email leads to a customer. -/
  | customerUnresolved
  | planInvalid
  | planUnavailable
  /-- A simulated activation does not say which price it is for. -/
  | simulatedPriceMissing
  | amountNotPositive
  | planWithoutCredits
  | creditLimitExceeded
  | billingAccountMissing
  | subscriptionMissing
  | subscriptionNotRetrieved (reason : String)
  | priceNotRetrieved (reason : String)
  | customerNotCreated (reason : String)
  | checkoutNotCreated (reason : String)
  | portalNotCreated
  | priceWithoutProduct (price : Value)
  /-- An entitled subscription whose period is not known from any source. -/
  | periodIncomplete (subscriptionId : String) (start finish : Option DateTime)
  /-- An entitled subscription without a product or a price. -/
  | subscriptionIncomplete (productId priceId : Option String)
  | productUnknown (productId : String)
  /-- A dependency failed while an event was processed. -/
  | eventUnprocessed (subscriptionId : String)
  /-- A failure that a dependency reported as a billing error of its own. -/
  | reported (kind : BillingError.Class) (message : String)

namespace BillingError

def Class.name : Class → String
  | .badRequest => "BadRequestError"
  | .notFound => "NotFoundError"
  | .internal => "InternalBillingError"

def Class.status : Class → Nat
  | .badRequest => 400
  | .notFound => 404
  | .internal => 500

def kind : BillingError → Class
  | .customerUnresolved | .planInvalid | .planUnavailable | .simulatedPriceMissing
  | .amountNotPositive | .planWithoutCredits | .creditLimitExceeded => .badRequest
  | .billingAccountMissing | .subscriptionMissing => .notFound
  | .reported kind _ => kind
  | _ => .internal

def message : BillingError → String
  | .customerUnresolved =>
      "Cannot initiate session without customer details (email or identified user)."
  | .planInvalid => "Invalid subscription plan selected."
  | .planUnavailable => "The selected plan is not available."
  | .simulatedPriceMissing => "Simulation error: priceId is required for simulated activation."
  | .amountNotPositive => "Credit amount must be positive."
  | .planWithoutCredits => "The current plan does not include AI credits."
  | .creditLimitExceeded => "Daily AI credit limit exceeded. Please try again tomorrow."
  | .billingAccountMissing => "Billing information not found for this user, or user does not exist."
  | .subscriptionMissing => "No active subscription for this user."
  | .subscriptionNotRetrieved reason => "Stripe retrieve subscription failed: " ++ reason
  | .priceNotRetrieved reason => "Stripe retrieve price failed: " ++ reason
  | .customerNotCreated reason => "Stripe create customer failed: " ++ reason
  | .checkoutNotCreated reason => "Stripe error creating checkout session: " ++ reason
  | .portalNotCreated => "Failed to create Stripe customer portal session."
  | .priceWithoutProduct price => "Stripe price " ++ price.display ++ " has no product"
  | .periodIncomplete .. | .subscriptionIncomplete .. =>
      "Incomplete subscription details for activation/update."
  | .productUnknown productId =>
      "Configuration error: Plan not found for Stripe Product ID " ++ productId ++ "."
  | .eventUnprocessed _ => "Failed to process subscription event due to an internal error."
  | .reported _ message => message

def timeText (time : Option DateTime) : String := (time.map DateTime.spaced).getD "None"

def context : BillingError → Fields
  | .periodIncomplete subscriptionId start finish =>
      [("subscription_id", .text subscriptionId), ("period_start", .text (timeText start)),
        ("period_end", .text (timeText finish))]
  | .subscriptionIncomplete productId priceId =>
      [("product_id", .ofText? productId), ("price_id", .ofText? priceId)]
  | .productUnknown productId => [("product_id", .text productId)]
  | .eventUnprocessed subscriptionId => [("subscription_id", .text subscriptionId)]
  | _ => []

end BillingError

inductive Failure where
  | billing (error : BillingError)
  /-- A value does not have the form that is asked of it. -/
  | invalid (issues : List Issue)
  /-- A value that is no record is asked for a field. -/
  | noSuchMember
  /-- Values of kinds that do not go together, such as times with and without a zone. -/
  | mismatch
  | noSuchKey
  | noSuchIndex
  | overflow
  /-- A value is not acceptable. -/
  | rejected (message : String)
  /-- The settings cannot be read. -/
  | misconfigured (message : String)
  /-- An answer holds what cannot be sent as JSON. -/
  | unsendable
  /-- A text holds what cannot be encoded. -/
  | unencodable (objection : Unencodable)
  /-- JSON is nested deeper than is read, in a list or a record. -/
  | exhausted (isList : Bool)
  /-- An address that cannot be called. -/
  | unreachable (message : String)
  | platform (message : String)
  | provider (message : String)
  | runtime (message : String)
  | connection (message : String)

namespace Failure

/-- Whether the failure is the fault of the value that was passed in. -/
def isBadInput : Failure → Bool
  | .rejected _ | .misconfigured _ | .invalid _ | .unsendable | .unencodable _ => true
  | _ => false

def fromProvider? : Failure → Option String
  | .provider message => some message
  | _ => none

def text : Failure → String
  | .billing error => error.message
  | .rejected message | .misconfigured message | .platform message | .provider message
  | .runtime message | .connection message | .unreachable message => message
  | .invalid _ => "invalid value"
  | .noSuchMember => "no such member"
  | .mismatch => "mismatched kinds"
  | .noSuchKey => "no such key"
  | .noSuchIndex => "no such index"
  | .overflow => "overflow"
  | .unsendable => "Out of range float values are not JSON compliant"
  | .unencodable objection => objection.message
  | .exhausted isList =>
      "maximum recursion depth exceeded while decoding a JSON " ++ (if isList then "array" else "object")
        ++ " from a unicode string"

end Failure

abbrev Outcome := Except Failure

def Outcome.filter {α : Type} (test : α → Outcome Bool) : List α → Outcome (List α)
  | [] => .ok []
  | item :: rest => do
      let kept ← test item
      let others ← Outcome.filter test rest
      return if kept then item :: others else others

def Checked.outcome {α : Type} : Checked α → Outcome α
  | .valid value => .ok value
  | .faulty issues => .error (.invalid issues)

def Charset.encodable (charset : Charset) (text : String) : Outcome String :=
  match charset.objection? text with
  | none => .ok text
  | some objection => .error (.unencodable objection)

namespace DateTime

/-- The failure that a year outside the calendar causes. Years beyond a machine integer of 32 bits
overflow. -/
def yearFailure (year : Int) : Failure :=
  if -Int.pow 2 31 ≤ year ∧ year < Int.pow 2 31 then .rejected s!"year {year} is out of range" else .overflow

def epochMillis (t : DateTime) : Outcome Int :=
  match t.epochMillis? with
  | some millis => .ok millis
  | none => .error (yearFailure 0)

/-- Whether a point in time is before another; one with a zone and one without have no order. -/
def before (a b : DateTime) : Outcome Bool :=
  match compare? a b with
  | some order => .ok (order == .lt)
  | none => .error .mismatch

def atMost (a b : DateTime) : Outcome Bool :=
  match compare? a b with
  | some order => .ok (order != .gt)
  | none => .error .mismatch

end DateTime

end PaidAccess
