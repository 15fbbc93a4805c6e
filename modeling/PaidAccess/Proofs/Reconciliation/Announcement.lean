import PaidAccess.Webhook
import PaidAccess.Proofs.Reconciliation.Interruption
/-!
What an announcement of the provider asks for. It is read before anything else is done, from its payload alone: it
cannot be read, or it is ignored, or it asks for an event to be reconciled or for a cancellation. So handling it is
reading it, doing what it asks for, and log entries.
-/

namespace PaidAccess

open PaidAccess.Action Reconciliation

/-- A change of access that an announcement asks for. -/
inductive AccessChange where
  | event (event : ReconcileEvent)
  | cancellation (subscription : Value)

def AccessChange.action : AccessChange → Action Unit
  | .event changed => discard (reconcile changed)
  | .cancellation subscription => discard (reconcileCancellation subscription)

namespace Webhook

def isForeign (fields : Fields) (subscription customer : Value) : Bool :=
  let isSubscription := match fields.get "mode" with
    | .text content => content == "subscription"
    | _ => false
  !isSubscription || !subscription.truthy || !customer.truthy

def checkoutOf (fields : Fields) (subscription customer reference : Value) : Checked ReconcileEvent :=
  (fun customerId subscriptionId clientReferenceId metadataUserId =>
    { ReconcileEvent.of .checkoutCompleted customerId subscriptionId metadataUserId with
      clientReferenceId := clientReferenceId })
    <$> textField "customer_id" customer
    <*> textField "subscription_id" subscription
    <*> textField "client_reference_id" (fields.get "client_reference_id")
    <*> textField "metadata_user_id" reference

def checkoutEvent (object : Value) : Outcome (Option ReconcileEvent) := do
  let fields ← Payload.record object
  let subscription ← Payload.idOf (fields.get "subscription")
  let customer ← Payload.idOf (fields.get "customer")
  if isForeign fields subscription customer then return none
  let reference ← Payload.metadataUserId fields
  return some (← (checkoutOf fields subscription customer reference).outcome)

def updateOf (fields : Fields) (customer reference : Value) : Checked ReconcileEvent :=
  (fun customerId subscriptionId metadataUserId =>
    ReconcileEvent.of .subscriptionUpdated customerId subscriptionId metadataUserId)
    <$> textField "customer_id" customer
    <*> textField "subscription_id" (fields.get "id")
    <*> textField "metadata_user_id" reference

def updateEvent (object : Value) : Outcome ReconcileEvent := do
  let fields ← Payload.record object
  let customer ← Payload.idOf (fields.get "customer")
  let reference ← Payload.metadataUserId fields
  (updateOf fields customer reference).outcome

def readingOf (kind : Option EventSource) (object : Value) : Outcome (Option AccessChange) :=
  match kind with
  | some .checkoutCompleted => do return (← checkoutEvent object).map .event
  | some .invoicePaid => do return (← renewalEvent object).map .event
  | some .subscriptionUpdated => do return some (.event (← updateEvent object))
  | some .subscriptionDeleted => .ok (some (.cancellation object))
  | none => .ok none

def reading (event : Value) : Outcome (Option AccessChange) := do
  let fields ← Payload.record event
  let object ← subject fields
  readingOf (EventSource.ofName? (Payload.textOf "type" fields)) object

/-- What holds of a value whatever is logged afterwards. -/
def Logging (returns : Bool → Service → Prop) (processed : Bool) (after : Service) : Prop :=
  ∀ entries : List LogEntry, returns processed (entries.foldl Service.logged after)

/-- What can come of an announcement: it cannot be read, which is a failure; it is ignored, which leaves log entries;
or what it asks for is done. -/
structure Handled (service : Service) (reading : Outcome (Option AccessChange)) (returns : Bool → Service → Prop)
    (raises : Failure → Service → Prop) : Prop where
  unread : ∀ failure, reading = .error failure → raises failure service
  ignored : reading = .ok none → Logging returns false service
  applied : ∀ change, reading = .ok (some change) →
    change.action.Ends service (fun _ after => Logging returns true after) raises

variable {service : Service} {object : Value} {bound : Fields} {returns : Bool → Service → Prop}
  {raises : Failure → Service → Prop}

theorem ends_of_read {α β : Type} {outcome : Outcome α} {rest : α → Outcome (Option AccessChange)}
    {next : α → Action β} {returned : β → Service → Prop}
    (handled : Handled service (outcome >>= rest) returns raises)
    (ends : ∀ value, Handled service (rest value) returns raises → (next value).Ends service returned raises) :
    (lift outcome >>= next).Ends service returned raises := by
  refine .bind (.lift (fun value known => ?_) fun failure known => ?_)
  · rw [known] at handled
    exact ends value handled
  · rw [known] at handled
    exact handled.unread failure rfl

theorem reconcile_ends {event : ReconcileEvent}
    (handled : Handled service (.ok (some (.event event))) returns raises) :
    (reconcile event).Ends service (fun _ after => Logging returns true after) raises :=
  .of_discard (handled.applied (.event event) rfl)

theorem checkoutCompleted_ends (handled : Handled service (readingOf (some .checkoutCompleted) object) returns raises) :
    (checkoutCompleted object bound).Ends service (Logging returns) raises := by
  unfold readingOf checkoutEvent at handled
  simp only [bind_assoc] at handled
  refine ends_of_read handled fun fields handled => ends_of_read handled fun subscription handled => ?_
  refine ends_of_read handled fun customer handled => ?_
  change (ite (isForeign fields subscription customer = true) _ _ : Action Bool).Ends service (Logging returns) raises
  split
  next foreign =>
    rw [if_pos foreign] at handled
    exact .bind (.log (.pure fun entries => handled.ignored rfl (_ :: entries)))
  next known =>
    rw [if_neg known] at handled
    simp only [bind_assoc] at handled
    refine ends_of_read handled fun reference handled => ends_of_read handled fun event handled => ?_
    exact .bind ((reconcile_ends handled).returning fun _ _ done => .pure done)

theorem subscriptionUpdated_ends
    (handled : Handled service (readingOf (some .subscriptionUpdated) object) returns raises) :
    (subscriptionUpdated object).Ends service (Logging returns) raises := by
  unfold readingOf updateEvent at handled
  simp only [bind_assoc] at handled
  refine ends_of_read handled fun fields handled => ends_of_read handled fun customer handled => ?_
  refine ends_of_read handled fun reference handled => ends_of_read handled fun event handled => ?_
  exact .bind ((reconcile_ends handled).returning fun _ _ done => .pure done)

theorem invoicePaid_ends (handled : Handled service (readingOf (some .invoicePaid) object) returns raises) :
    (invoicePaid object bound).Ends service (Logging returns) raises := by
  unfold readingOf renewalEvent at handled
  simp only [bind_assoc] at handled
  unfold invoicePaid reconcileRenewal
  simp only [bind_assoc]
  refine ends_of_read handled fun fields handled => ends_of_read handled fun subscription handled => ?_
  refine ends_of_read handled fun customer handled => ends_of_read handled fun reference handled => ?_
  refine ends_of_read handled fun ids handled => ?_
  rcases ids with _ | ⟨subscriptionId, customerId⟩
  · refine .bind (.bind (.log (.pure ?_)))
    exact .bind (.log (.pure fun entries => handled.ignored rfl (_ :: _ :: entries)))
  · simp only [bind_assoc] at handled ⊢
    refine ends_of_read handled fun reference handled => ?_
    refine .bind ((reconcile_ends handled).returning fun result _ done => .bind ?_)
    split
    next => exact .bind (.log (.pure (.pure fun entries => done (_ :: entries))))
    next => exact .bind (.log (.pure (.pure fun entries => done (_ :: entries))))

theorem dispatch_ends (kind : Option EventSource) (handled : Handled service (readingOf kind object) returns raises) :
    (dispatch kind object bound).Ends service (Logging returns) raises := by
  unfold dispatch
  split
  next => exact checkoutCompleted_ends handled
  next => exact invoicePaid_ends handled
  next => exact subscriptionUpdated_ends handled
  next =>
    have cancelled := Ends.of_discard (handled.applied (.cancellation object) rfl)
    exact .bind (cancelled.returning fun _ _ done => .pure done)
  next => exact .bind (.log (.pure fun entries => handled.ignored rfl (_ :: entries)))

theorem handle_ends {event : Value} (handled : Handled service (reading event) returns raises) :
    (handle event).Ends service returns raises := by
  unfold handle
  unfold reading at handled
  refine ends_of_read handled fun fields handled => ends_of_read handled fun object handled => ?_
  refine .bind ((dispatch_ends _ handled).returning fun processed after done => ?_)
  cases processed with
  | true => exact .bind (.log (.pure (done [_])))
  | false => exact .pure (done [])

theorem unsimulated_of_checkoutEvent {changed : ReconcileEvent} (read : checkoutEvent object = .ok (some changed)) :
    changed.simulated = false := by
  obtain ⟨fields, -, read⟩ := Outcome.bind_eq_ok_iff.mp read
  obtain ⟨subscription, -, read⟩ := Outcome.bind_eq_ok_iff.mp read
  obtain ⟨customer, -, read⟩ := Outcome.bind_eq_ok_iff.mp read
  split at read
  next => cases read
  next =>
    obtain ⟨reference, -, read⟩ := Outcome.bind_eq_ok_iff.mp read
    obtain ⟨event, checked, read⟩ := Outcome.bind_eq_ok_iff.mp read
    cases read
    unfold checkoutOf at checked
    generalize textField "customer_id" customer = first at checked
    generalize textField "subscription_id" subscription = second at checked
    generalize textField "client_reference_id" _ = third at checked
    generalize textField "metadata_user_id" reference = fourth at checked
    cases first <;> cases second <;> cases third <;> cases fourth <;> cases checked
    rfl

theorem unsimulated_of_renewalEvent {changed : ReconcileEvent} (read : renewalEvent object = .ok (some changed)) :
    changed.simulated = false := by
  obtain ⟨fields, -, read⟩ := Outcome.bind_eq_ok_iff.mp read
  obtain ⟨subscription, -, read⟩ := Outcome.bind_eq_ok_iff.mp read
  obtain ⟨customer, -, read⟩ := Outcome.bind_eq_ok_iff.mp read
  obtain ⟨reference, -, read⟩ := Outcome.bind_eq_ok_iff.mp read
  obtain ⟨ids, -, read⟩ := Outcome.bind_eq_ok_iff.mp read
  cases ids with
  | none => cases read
  | some ids =>
    obtain ⟨reference, -, read⟩ := Outcome.bind_eq_ok_iff.mp read
    cases read
    rfl

theorem unsimulated_of_updateEvent {changed : ReconcileEvent} (read : updateEvent object = .ok changed) :
    changed.simulated = false := by
  obtain ⟨fields, -, read⟩ := Outcome.bind_eq_ok_iff.mp read
  obtain ⟨customer, -, read⟩ := Outcome.bind_eq_ok_iff.mp read
  obtain ⟨reference, -, read⟩ := Outcome.bind_eq_ok_iff.mp read
  obtain ⟨_, _, _, rfl⟩ := Checked.exists_of_outcome read
  rfl

theorem unsimulated_of_reading {event : Value} {changed : ReconcileEvent}
    (read : reading event = .ok (some (.event changed))) : changed.simulated = false := by
  obtain ⟨fields, -, read⟩ := Outcome.bind_eq_ok_iff.mp read
  obtain ⟨object, -, read⟩ := Outcome.bind_eq_ok_iff.mp read
  unfold readingOf at read
  split at read
  next =>
    obtain ⟨found, checkout, read⟩ := Outcome.bind_eq_ok_iff.mp read
    cases found with
    | none => cases read
    | some found =>
      cases read
      exact unsimulated_of_checkoutEvent checkout
  next =>
    obtain ⟨found, renewal, read⟩ := Outcome.bind_eq_ok_iff.mp read
    cases found with
    | none => cases read
    | some found =>
      cases read
      exact unsimulated_of_renewalEvent renewal
  next =>
    obtain ⟨found, update, read⟩ := Outcome.bind_eq_ok_iff.mp read
    cases read
    exact unsimulated_of_updateEvent update
  next => cases read
  next => cases read

end Webhook

end PaidAccess
