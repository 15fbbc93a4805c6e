import PaidAccess.Service.Action
/-!
Dealing with the payment provider: asking for subscriptions, prices and customers, opening sessions,
and reading signed messages. A failure that the provider reports becomes a billing error.
-/

namespace PaidAccess

structure ProviderSession where
  id : Value
  url : Value

namespace ProviderClient

open PaidAccess.Action

/-- Asks the provider; a failure that it reports is logged and refused as the given error. -/
def askOrRefuse (request : ProviderRequest) (event : String) (fields : Fields)
    (error : String → BillingError) : Action Value :=
  recover (ask request) fun failure =>
    match failure.fromProvider? with
    | some reason => do
        log (.of .error event (fields ++ [("error", .text reason)]))
        refuse (error reason)
    | none => fail failure

def retrieveSubscription (id : Value) : Action ProviderSubscription := do
  let answer ← askOrRefuse (.retrieveSubscription id) "stripe_retrieve_subscription_failed"
    [("subscription_id", id)] .subscriptionNotRetrieved
  lift (Payload.subscription answer)

def retrievePrice (id : Value) : Action ProviderPrice := do
  let answer ← askOrRefuse (.retrievePrice id) "stripe_retrieve_price_failed"
    [("price_id", id)] .priceNotRetrieved
  lift (Payload.price answer)

def idText : Value → Outcome String
  | .record fields | .handle (.record fields) =>
      match Fields.find? "id" fields with
      | some id => .ok id.display
      | none => .error .noSuchKey
  | _ => .error .mismatch

def idTexts : List Value → Outcome (List String)
  | [] => .ok []
  | entry :: rest => do
      let id ← idText entry
      let ids ← idTexts rest
      return id :: ids

def customerIds (answer : Value) : Outcome (List String) := do
  let fields ← Payload.expand answer
  match fields.find? "data" with
  | none => return []
  | some (.list entries) => idTexts entries
  | some (.record []) => return []
  | some (.text "") => return []
  | some _ => throw .mismatch

def listCustomers (email : Value) : Action (List String) := do
  let answer ← ask (.listCustomers email)
  lift (customerIds answer)

def member (name : String) : Value → Outcome Value
  | .handle (.record fields) | .record fields =>
      match Fields.find? name fields with
      | some value => .ok value
      | none => .error .noSuchMember
  | _ => .error .noSuchMember

def createCustomer (email name metadata : Value) : Action String := do
  let answer ← askOrRefuse (.createCustomer email name metadata) "stripe_create_customer_failed" []
    .customerNotCreated
  let id ← lift (member "id" answer)
  return id.display

def sessionOf (answer : Value) : Outcome ProviderSession := do
  let id ← member "id" answer
  let url ← member "url" answer
  return ⟨id, url⟩

def createCheckout (priceId customerId customerEmail userId successUrl cancelUrl : Value) :
    Action ProviderSession := do
  let config ← read (·.deployment.provider)
  let order : CheckoutOrder :=
    { priceId := priceId, customerId := customerId, customerEmail := customerEmail, userId := userId
      successUrl := successUrl.orElse (.text config.successUrl)
      cancelUrl := cancelUrl.orElse (.text config.cancelUrl) }
  let answer ← askOrRefuse (.createCheckout order) "stripe_checkout_session_failed"
    [("price_id", priceId)] .checkoutNotCreated
  lift (sessionOf answer)

def createPortal (customerId returnUrl : Value) : Action ProviderSession := do
  let config ← read (·.deployment.provider)
  let answer ← askOrRefuse (.createPortal customerId (returnUrl.orElse (.text config.returnUrl)))
    "stripe_portal_session_failed" [("customer_id", customerId)] fun _ => .portalNotCreated
  lift (sessionOf answer)

/-- The event in a signed message. Without a shared secret or a signature nothing is asked. -/
def openEvent (payload : String) (signature : Value) : Action Value := do
  let config ← read (·.deployment.provider)
  if config.webhookSecret = "" then
    fail (.rejected "Stripe webhook secret is not configured")
  if !signature.truthy then
    fail (.rejected "Missing Stripe-Signature header")
  let tolerance ← read (·.deployment.tolerance)
  let answer ← ask (.openEvent payload signature config.webhookSecret tolerance)
  lift (Payload.contents answer)

end ProviderClient

end PaidAccess
