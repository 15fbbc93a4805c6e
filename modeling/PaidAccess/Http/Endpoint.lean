import PaidAccess.Http.Bearer
import PaidAccess.Json.Writer
import PaidAccess.Credits
import PaidAccess.Checkout
import PaidAccess.Webhook
/-!
The endpoints of the service and what each does. A request is read before its sender is known, checked
after that, and only then served, so a missing part of the service is noticed last.
-/

namespace PaidAccess.Http

open Handling

inductive Endpoint where
  | root
  | health
  | checkout
  | portal
  | subscription
  | consume
  | webhook
  deriving DecidableEq

namespace Endpoint

def all : List Endpoint := [.root, .health, .checkout, .portal, .subscription, .consume, .webhook]

def path : Endpoint → String
  | .root => "/"
  | .health => "/health"
  | .checkout => "/api/v1/billing/checkout"
  | .portal => "/api/v1/billing/portal"
  | .subscription => "/api/v1/billing/subscription"
  | .consume => "/api/v1/billing/credits/consume"
  | .webhook => "/api/v1/billing/webhook"

def method : Endpoint → String
  | .root | .health | .subscription => "GET"
  | .checkout | .portal | .consume | .webhook => "POST"

/-- Whether a path leads to an endpoint. A line break at the end of the path does not count. -/
def isAt (path : String) (endpoint : Endpoint) : Bool :=
  path == endpoint.path || path == endpoint.path ++ "\n"

def at? (path : String) : Option Endpoint := all.find? (isAt path)

def withoutSlashes (path : String) : String :=
  String.ofList (path.toList.reverse.dropWhile (· == '/')).reverse

def resolve (method path : String) : Except Refusal Endpoint :=
  match at? path with
  | some endpoint =>
      if endpoint.method = method then .ok endpoint else .error (.wrongMethod endpoint.method)
  | none =>
      match at? (withoutSlashes path) with
      | some endpoint => .error (.movedTo endpoint.path)
      | none => .error .unknownPath

/-- The body of a request, which must not be JSON in name only. -/
def body (request : Request) : Except Refusal Value :=
  match request.value with
  | .ok value => .ok value
  | .error .malformed => .error (.malformed [⟨[.field "body"], .jsonInvalid⟩])
  | .error _ => .error .unreadable

/-- Refuses a body for its issues. The answer quotes what is objected to, so it fails itself when that
cannot be sent as JSON. -/
def objectTo {α : Type} (content : Value) (issues : List Issue) : Handling α :=
  if issues.all fun issue => Json.isStandard (issue.subject content) then
    turnDown (.malformed (issues.map (Issue.within (.field "body"))))
  else act (Action.fail .unsendable)

def readBody {α : Type} (read : Value → Checked α) (content : Value) : Handling α :=
  match content with
  | .null => objectTo content [⟨[], .missing⟩]
  | .record fields =>
      match read (.record fields) with
      | .valid value => return value
      | .faulty issues => objectTo content issues
  | _ => objectTo content [⟨[], .modelAttributesType⟩]

def priceOf (config : ProviderConfig) (order : CheckoutRequest) : Option String :=
  match order.priceId with
  | some price => present? (some price)
  | none => (present? order.planKey).bind config.priceOf?

/-- Starts a checkout, or opens the portal for a subscriber. The email of a signed-in user goes before
the one that the request names. -/
def startCheckout (request : Request) : Handling Response := do
  let content ← decided (body request)
  let user ← Bearer.userOrGuest request
  let order ← readBody CheckoutRequest.ofValue content
  demand .billing
  demand .provider
  match priceOf (← act (Action.read (·.deployment.provider))) order with
  | none => act (Action.refuse .planUnavailable)
  | some price => do
      let email := orElseText (user.bind (·.email)) order.email
      let session ← act (Checkout.start (.text price) (.ofText? email) (.ofText? (user.map (·.id))))
      return .ofValue 200 session.toValue

def openPortal (request : Request) : Handling Response := do
  let user ← Bearer.user request
  demand .billing
  let session ← act (Checkout.portalFor (.text user.id))
  return .ofValue 200 session.toValue

def showSubscription (request : Request) : Handling Response := do
  let user ← Bearer.user request
  demand .billing
  let info ← act (Checkout.info (.text user.id))
  return .ofValue 200 (info.toValue DateTime.wire)

def spendCredits (request : Request) : Handling Response := do
  let content ← decided (body request)
  let user ← Bearer.user request
  let wish ← readBody ConsumeRequest.ofValue content
  demand .usage
  let usage ← act (Credits.consume (.text user.id) (.whole wish.amount))
  return .ofValue 200 (usage.toValue DateTime.wire)

/-- The event in a signed message. What is wrong with the message itself is told to its sender; any
other failure is only logged. -/
def announcement (request : Request) : Action (Except Refusal Value) :=
  Action.recover
    (do
      let event ← ProviderClient.openEvent request.body
        (.ofText? (request.header? "stripe-signature"))
      return .ok event)
    fun failure => do
      if failure.isBadInput then return .error (.unverified failure.text)
      Action.log (.about .warning "stripe_webhook_signature_invalid" [] failure)
      return .error (.unverified "Invalid webhook signature")

/-- Takes an announcement of the provider. A failure to act on it is a failure of the request, so that
the provider announces it again. -/
def takeAnnouncement (request : Request) : Handling Response := do
  demand .billing
  demand .provider
  let event ← decided (← act (announcement request))
  let processed ← act (Webhook.handle event)
  return .ofValue 200 (WebhookReceipt.mk true processed).toValue

def about : Value :=
  .record [("name", .text "artshare Billing API"), ("version", .text "0.1.0"), ("docs", .text "/docs")]

def serve (request : Request) : Endpoint → Handling Response
  | .root => pure (.ofValue 200 about)
  | .health => pure (.ofValue 200 (.record [("status", .text "healthy")]))
  | .checkout => startCheckout request
  | .portal => openPortal request
  | .subscription => showSubscription request
  | .consume => spendCredits request
  | .webhook => takeAnnouncement request

end Endpoint

end PaidAccess.Http
