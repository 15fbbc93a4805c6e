import PaidAccess.Reconciliation
/-!
Acting on the provider's announcements. Each kind of announcement is brought into the form of an event
and reconciled; all others are ignored.
-/

namespace PaidAccess.Webhook

open PaidAccess.Action

def subject (event : Fields) : Outcome Value := do
  let data ← Payload.recordOrEmpty (event.get "data")
  let object := data.get "object"
  return if object.truthy then object else .record []

def textField (name : String) (value : Value) : Checked (Option String) :=
  (Checked.nullable Lenient.text value).within (.field name)

def checkoutCompleted (object : Value) (bound : Fields) : Action Bool := do
  let fields ← lift (Payload.record object)
  let subscription ← lift (Payload.idOf (fields.get "subscription"))
  let customer ← lift (Payload.idOf (fields.get "customer"))
  let mode := fields.get "mode"
  let isSubscription := match mode with
    | .text content => content == "subscription"
    | _ => false
  if !isSubscription || !subscription.truthy || !customer.truthy then
    log (.of .warning "billing_checkout_not_subscription"
      (bound ++ [("session_id", fields.get "id"), ("mode", mode)]))
    return false
  let reference ← lift (Payload.metadataUserId fields)
  let event ← lift
    ((fun customerId subscriptionId clientReferenceId metadataUserId =>
      { ReconcileEvent.of .checkoutCompleted customerId subscriptionId metadataUserId with
        clientReferenceId := clientReferenceId })
      <$> textField "customer_id" customer
      <*> textField "subscription_id" subscription
      <*> textField "client_reference_id" (fields.get "client_reference_id")
      <*> textField "metadata_user_id" reference).outcome
  let _ ← Reconciliation.reconcile event
  return true

def subscriptionUpdated (object : Value) : Action Bool := do
  let fields ← lift (Payload.record object)
  let customer ← lift (Payload.idOf (fields.get "customer"))
  let reference ← lift (Payload.metadataUserId fields)
  let event ← lift
    ((fun customerId subscriptionId metadataUserId =>
      ReconcileEvent.of .subscriptionUpdated customerId subscriptionId metadataUserId)
      <$> textField "customer_id" customer
      <*> textField "subscription_id" (fields.get "id")
      <*> textField "metadata_user_id" reference).outcome
  let _ ← Reconciliation.reconcile event
  return true

def invoicePaid (object : Value) (bound : Fields) : Action Bool := do
  match ← Reconciliation.reconcileRenewal object with
  | some _ => return true
  | none => do
      log (.of .info "billing_webhook_ignored"
        (bound ++ [("reason", .text "invoice not tied to a subscription")]))
      return false

def dispatch (kind : Option EventSource) (object : Value) (bound : Fields) : Action Bool := do
  match kind with
  | some .checkoutCompleted => checkoutCompleted object bound
  | some .invoicePaid => invoicePaid object bound
  | some .subscriptionUpdated => subscriptionUpdated object
  | some .subscriptionDeleted => do
      let _ ← Reconciliation.reconcileCancellation object
      return true
  | none => do
      log (.of .info "billing_webhook_ignored" bound)
      return false

def handle (event : Value) : Action Bool := do
  let fields ← lift (Payload.record event)
  let kind := Payload.textOf "type" fields
  let object ← lift (subject fields)
  let bound : Fields := [("event_id", fields.get "id"), ("event_type", .text kind)]
  let processed ← dispatch (EventSource.ofName? kind) object bound
  if processed then
    log (.of .info "billing_webhook_processed" bound)
  return processed

end PaidAccess.Webhook
