import PaidAccess.Provider.Payload
/-!
Requests to the payment provider, and who answers them. What is asked for is given as a value, as callers
may name anything; the provider objects to what it does not know.
-/

namespace PaidAccess

structure CheckoutOrder where
  priceId : Value
  /-- The customer that pays, or null. -/
  customerId : Value
  customerEmail : Value
  userId : Value
  successUrl : Value
  cancelUrl : Value

inductive ProviderRequest where
  | retrieveSubscription (id : Value)
  | retrievePrice (id : Value)
  | listCustomers (email : Value)
  | createCustomer (email name metadata : Value)
  | createCheckout (order : CheckoutOrder)
  | createPortal (customerId returnUrl : Value)
  /-- Asks for the event in a signed message. -/
  | openEvent (payload : String) (signature : Value) (secret : String) (tolerance : Int)

inductive ProviderMethod where
  | retrieveSubscription
  | retrievePrice
  | listCustomers
  | createCustomer
  | createCheckout
  | createPortal
  | openEvent
  deriving DecidableEq

namespace ProviderMethod

def name : ProviderMethod → String
  | .retrieveSubscription => "Subscription.retrieve"
  | .retrievePrice => "Price.retrieve"
  | .listCustomers => "Customer.list"
  | .createCustomer => "Customer.create"
  | .createCheckout => "checkout.Session.create"
  | .createPortal => "billing_portal.Session.create"
  | .openEvent => "Webhook.construct_event"

def all : List ProviderMethod :=
  [.retrieveSubscription, .retrievePrice, .listCustomers, .createCustomer, .createCheckout,
    .createPortal, .openEvent]

end ProviderMethod

namespace CheckoutOrder

def payer (order : CheckoutOrder) : Fields :=
  if order.customerId.truthy then [("customer", order.customerId)]
  else Fields.ofTruthy "customer_email" order.customerEmail

def parameters (order : CheckoutOrder) : Fields :=
  [("mode", .text "subscription"), ("payment_method_types", .texts ["card"]),
    ("line_items", .list [.record [("price", order.priceId), ("quantity", .int 1)]]),
    ("allow_promotion_codes", .bool true),
    ("metadata", .record [("user_id", order.userId.orElse (.text ""))]),
    ("success_url", order.successUrl), ("cancel_url", order.cancelUrl)]
    ++ Fields.ofTruthy "client_reference_id" order.userId ++ order.payer

end CheckoutOrder

namespace ProviderRequest

def method : ProviderRequest → ProviderMethod
  | .retrieveSubscription _ => .retrieveSubscription
  | .retrievePrice _ => .retrievePrice
  | .listCustomers _ => .listCustomers
  | .createCustomer .. => .createCustomer
  | .createCheckout _ => .createCheckout
  | .createPortal .. => .createPortal
  | .openEvent .. => .openEvent

def parameters : ProviderRequest → Fields
  | .retrieveSubscription id =>
      [("id", id), ("expand", .texts ["latest_invoice.lines.data", "items.data.price.product"])]
  | .retrievePrice id => [("id", id), ("expand", .texts ["product"])]
  | .listCustomers email => [("email", email), ("limit", .int 1)]
  | .createCustomer email name metadata =>
      [("email", email)] ++ Fields.ofTruthy "name" name ++ Fields.ofTruthy "metadata" metadata
  | .createCheckout order => order.parameters
  | .createPortal customerId returnUrl =>
      [("customer", customerId), ("return_url", returnUrl)]
  | .openEvent payload signature secret tolerance =>
      [("payload", .text payload), ("sig_header", signature), ("secret", .text secret),
        ("tolerance", .int tolerance)]

end ProviderRequest

/-- A payment provider: which requests its interface takes at all, and what it answers to a request
after the requests that it has served. -/
structure Provider where
  takes : ProviderRequest → Bool
  answer : List ProviderRequest → ProviderRequest → Outcome Value
  served : List ProviderRequest

namespace Provider

/-- Answers a request. A request that fails leaves no trace at the provider. -/
def serve (provider : Provider) (request : ProviderRequest) : Outcome Value × Provider :=
  match provider.answer provider.served request with
  | .ok value => (.ok value, { provider with served := provider.served ++ [request] })
  | .error failure => (.error failure, provider)

end Provider

end PaidAccess
