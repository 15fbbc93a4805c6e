import Mathlib.Logic.Relation
import PaidAccess.Proofs.Provider.Invoice
import PaidAccess.Proofs.Provider.Representation
import PaidAccess.Proofs.Service.Moves
/-!
The same announcement in different words: with an object where another one has its id, or, about an invoice, with the
reference to a subscription at the invoice's parent where another one has it at the invoice. What an announcement asks
for is read from it before anything is done, so it is enough that all of them ask for the same.
-/

namespace PaidAccess

open PaidAccess.Action Reconciliation

namespace Payload

namespace Shape

def detailsParts : String → Shape
  | "subscription" => .reference
  | _ => .plain

def parentParts : String → Shape
  | "subscription_details" => .record detailsParts
  | _ => .plain

def subjectParts : String → Shape
  | "customer" => .reference
  | "subscription" => .reference
  | "parent" => .record parentParts
  | _ => .plain

def dataParts : String → Shape
  | "object" => .record subjectParts
  | _ => .plain

def announcementParts : String → Shape
  | "data" => .record dataParts
  | _ => .plain

def announcement : Shape := .record announcementParts

end Shape

/-- Two invoices that are the same but for their reference to a subscription, which has moved from the first one itself
to the parent of the second. If it refers to nothing, nothing else was referred to by the first one's parent. -/
structure Moved (invoice moved : Fields) : Prop where
  others : ∀ name, name ≠ "subscription" → name ≠ "parent" → invoice.get name = moved.get name
  gone : moved.get "subscription" = .null
  arrived : ParentStates moved (invoice.get "subscription")
  vacant : ∀ id, idOf (invoice.get "subscription") = .ok id → id.truthy = false → ParentStates invoice .null

def IsAbout (event object : Fields) : Prop :=
  ∃ data : Fields, event.get "data" = .record data ∧ data.get "object" = .record object

/-- Two announcements of the same. -/
inductive Restated : Value → Value → Prop where
  | represented {event other : Value} (restates : Restates .announcement event other) : Restated event other
  | moved {event other invoice moved : Fields} (kind : textOf "type" event = EventSource.invoicePaid.name)
      (kindToo : textOf "type" other = EventSource.invoicePaid.name) (about : IsAbout event invoice)
      (aboutToo : IsAbout other moved) (moves : Moved invoice moved) : Restated (.record event) (.record other)

variable {parts : String → Shape} {value other : Value} {fields others : Fields}

namespace Restates

theorem opened (restates : Restates (.record parts) value other) :
    Concur (RestatesFields parts) (Payload.record value) (Payload.record other) := by
  cases restates with
  | same => exact .refl (RestatesFields.refl parts) _
  | record restates => exact .ok restates

theorem truthy_eq (restates : Restates (.record parts) value other) : value.truthy = other.truthy := by
  cases restates with
  | same => rfl
  | record restates => cases restates <;> rfl

theorem recordOrEmpty (restates : Restates (.record parts) value other) :
    Concur (RestatesFields parts) (recordOrEmpty value) (recordOrEmpty other) := by
  unfold Payload.recordOrEmpty
  rw [restates.truthy_eq]
  split
  next => exact restates.opened
  next => exact .ok (.nil parts)

theorem invoiceSubscriptionId_eq (restates : Restates (.record Shape.subjectParts) value other) :
    invoiceSubscriptionId value = invoiceSubscriptionId other := by
  refine restates.opened.bind_eq fun fields others tells => ?_
  have direct : Restates .reference (fields.get "subscription") (others.get "subscription") := tells.get "subscription"
  rw [direct.idOf_eq]
  refine congrArg (bind (idOf (others.get "subscription"))) (funext fun id => ?_)
  split
  next => rfl
  next =>
    refine (Restates.recordOrEmpty (tells.get "parent")).bind_eq fun parent above tells => ?_
    refine (Restates.recordOrEmpty (tells.get "subscription_details")).bind_eq fun details inside tells => ?_
    exact Restates.idOf_eq (tells.get "subscription")

end Restates

theorem RestatesFields.metadataUserId_eq (restates : RestatesFields parts fields others)
    (plain : parts "metadata" = .plain) : metadataUserId fields = metadataUserId others := by
  unfold metadataUserId
  rw [restates.get_eq "metadata" plain]

def SameReference (first second : Value) : Prop := first = second ∨ first.truthy = false ∧ second.truthy = false

theorem SameReference.renewalIds_eq {first second : Value} (same : SameReference first second) (customer : Value) :
    renewalIds first customer = renewalIds second customer := by
  rcases same with rfl | ⟨nothing, nothingToo⟩
  · rfl
  · simp only [renewalIds, nothing, nothingToo, Bool.false_and, Bool.false_eq_true, ↓reduceIte]

namespace Moved

variable {invoice moved : Fields}

theorem invoiceSubscriptionId (moves : Moved invoice moved) :
    Concur SameReference (invoiceSubscriptionId (.record invoice)) (invoiceSubscriptionId (.record moved)) := by
  have found : Payload.invoiceSubscriptionId (.record moved) = idOf (invoice.get "subscription") := by
    rw [moves.arrived.invoiceSubscriptionId, moves.gone]
    rfl
  rw [found]
  cases read : idOf (invoice.get "subscription") with
  | error failure =>
    unfold Payload.invoiceSubscriptionId
    simp only [record, bind, Except.bind, read]
    exact .error failure
  | ok id =>
    by_cases refers : id.truthy
    · unfold Payload.invoiceSubscriptionId
      simp only [record, bind, Except.bind, read, refers, ↓reduceIte]
      exact .ok (.inl rfl)
    · have nothing : id.truthy = false := by simpa using refers
      rw [(moves.vacant id read nothing).invoiceSubscriptionId]
      simp only [bind, Except.bind, read, refers, Bool.false_eq_true, ↓reduceIte]
      exact .ok (.inr ⟨rfl, nothing⟩)

theorem renewalEvent_eq (moves : Moved invoice moved) :
    renewalEvent (.record invoice) = renewalEvent (.record moved) := by
  have customer : invoice.get "customer" = moved.get "customer" := moves.others _ (by decide) (by decide)
  have metadata : metadataUserId invoice = metadataUserId moved := by
    unfold metadataUserId
    rw [moves.others "metadata" (by decide) (by decide)]
  refine moves.invoiceSubscriptionId.bind_eq fun first second same => ?_
  simp only [customer, metadata, same.renewalIds_eq]

end Moved

end Payload

open Payload

theorem Action.lift_bind_eq {α β : Type} {related : α → α → Prop} {first second : Outcome α} {next after : α → Action β}
    (concur : Concur related first second) (rest : ∀ one other, related one other → next one = after other) :
    lift first >>= next = lift second >>= after := by
  cases concur with
  | error failure => rfl
  | ok holds => exact rest _ _ holds

namespace Webhook

variable {value other : Value} {fields others : Fields}

theorem checkoutEvent_eq (restates : Restates (.record Shape.subjectParts) value other) :
    checkoutEvent value = checkoutEvent other := by
  refine restates.opened.bind_eq fun fields others tells => ?_
  have customer : Restates .reference (fields.get "customer") (others.get "customer") := tells.get "customer"
  have subscription : Restates .reference (fields.get "subscription") (others.get "subscription") := tells.get "subscription"
  have foreign : isForeign fields = isForeign others := by
    unfold isForeign
    rw [tells.get_eq "mode" rfl]
  have checkout : checkoutOf fields = checkoutOf others := by
    unfold checkoutOf
    rw [tells.get_eq "client_reference_id" rfl]
  simp only [subscription.idOf_eq, customer.idOf_eq, foreign, tells.metadataUserId_eq rfl, checkout]

theorem renewalEvent_eq (restates : Restates (.record Shape.subjectParts) value other) :
    renewalEvent value = renewalEvent other := by
  refine restates.opened.bind_eq fun fields others tells => ?_
  have customer : Restates .reference (fields.get "customer") (others.get "customer") := tells.get "customer"
  simp only [restates.invoiceSubscriptionId_eq, customer.idOf_eq, tells.metadataUserId_eq rfl]

theorem updateEvent_eq (restates : Restates (.record Shape.subjectParts) value other) :
    updateEvent value = updateEvent other := by
  refine restates.opened.bind_eq fun fields others tells => ?_
  have customer : Restates .reference (fields.get "customer") (others.get "customer") := tells.get "customer"
  simp only [customer.idOf_eq, updateOf, tells.get_eq "id" rfl, tells.metadataUserId_eq rfl]

theorem reconcileCancellation_eq (restates : Restates (.record Shape.subjectParts) value other) :
    reconcileCancellation value = reconcileCancellation other := by
  refine lift_bind_eq restates.opened fun fields others tells => ?_
  have customer : Restates .reference (fields.get "customer") (others.get "customer") := tells.get "customer"
  simp only [customer.idOf_eq, tells.get_eq "id" rfl, tells.metadataUserId_eq rfl]

/-- Two readings of announcements that ask for the same. -/
def SameReading : Outcome (Option AccessChange) → Outcome (Option AccessChange) → Prop :=
  Concur (Option.Rel fun asked askedToo => asked.action = askedToo.action)

theorem SameReading.of_eq {first second : Outcome (Option AccessChange)} (same : first = second) :
    SameReading first second := by
  subst same
  refine .refl (fun asked => ?_) first
  cases asked with
  | none => exact .none
  | some change => exact .some rfl

theorem readingOf_restates (kind : Option EventSource) (restates : Restates (.record Shape.subjectParts) value other) :
    SameReading (readingOf kind value) (readingOf kind other) := by
  cases kind with
  | none => exact .of_eq rfl
  | some source =>
    cases source with
    | checkoutCompleted => exact .of_eq (by simp only [readingOf, checkoutEvent_eq restates])
    | invoicePaid => exact .of_eq (by simp only [readingOf, renewalEvent_eq restates])
    | subscriptionUpdated => exact .of_eq (by simp only [readingOf, updateEvent_eq restates])
    | subscriptionDeleted => exact .ok (.some (congrArg discard (reconcileCancellation_eq restates)))

theorem subject_restates (restates : RestatesFields Shape.announcementParts fields others) :
    Concur (Restates (.record Shape.subjectParts)) (subject fields) (subject others) := by
  refine (Restates.recordOrEmpty (restates.get "data")).bind fun data content tells => ?_
  have object : Restates (.record Shape.subjectParts) (data.get "object") (content.get "object") := tells.get "object"
  dsimp only
  rw [object.truthy_eq]
  split
  next => exact .ok object
  next => exact .ok (.same _ _)

theorem subject_eq {event object : Fields} (about : IsAbout event object) : subject event = .ok (.record object) := by
  obtain ⟨data, held, stated⟩ := about
  have filled : (Value.record data).truthy = true := by
    cases data with
    | nil => cases stated
    | cons field rest => rfl
  unfold subject Payload.recordOrEmpty
  simp only [held, filled, ↓reduceIte, Payload.record, bind, Except.bind, stated]
  cases object <;> rfl

theorem reading_restated (restated : Restated value other) : SameReading (reading value) (reading other) := by
  cases restated with
  | represented restates =>
    refine restates.opened.bind fun fields others tells => ?_
    refine (subject_restates tells).bind fun object content restates => ?_
    rw [tells.textOf_eq "type" rfl]
    exact readingOf_restates _ restates
  | moved kind kindToo about aboutToo moves =>
    refine .of_eq ?_
    unfold reading
    simp only [Payload.record, bind, Except.bind, subject_eq about, subject_eq aboutToo, kind, kindToo]
    have invoiced : EventSource.ofName? EventSource.invoicePaid.name = some .invoicePaid := by decide
    simp only [invoiced, readingOf, moves.renewalEvent_eq]

def verdictOf (service : Service) : Outcome (Option AccessChange) → Outcome Bool
  | .error failure => .error failure
  | .ok none => .ok false
  | .ok (some change) => (change.action.run service).1.map fun _ => true

theorem outcome_handle (service : Service) (event : Value) :
    ((handle event).run service).1 = verdictOf service (reading event) := by
  have handled : Handled service (reading event) (fun processed _ => .ok processed = verdictOf service (reading event))
      fun failure _ => .error failure = verdictOf service (reading event) := by
    refine ⟨fun failure unread => ?_, fun ignored _ => ?_, fun change asked => ?_⟩
    · rw [unread, verdictOf]
    · rw [ignored, verdictOf]
    · refine ⟨fun value after ran _ => ?_, fun failure after ran => ?_⟩
      · rw [asked, verdictOf, ran]
        rfl
      · rw [asked, verdictOf, ran]
        rfl
  have ends := handle_ends handled
  rcases ran : (handle event).run service with ⟨failure | value, after⟩
  · exact ends.raised failure after ran
  · exact ends.returned value after ran

theorem SameReading.settles {first second : Outcome (Option AccessChange)} (same : SameReading first second)
    (service : Service) :
    verdictOf service first = verdictOf service second ∧ storeAfter service first = storeAfter service second := by
  cases same with
  | error failure => exact ⟨rfl, rfl⟩
  | ok asks =>
    cases asks with
    | none => exact ⟨rfl, rfl⟩
    | some same => simp only [verdictOf, storeAfter, same, and_self]

/-- Handling either of two announcements returns the same and leaves the same store. -/
def HandledAlike (event other : Value) : Prop :=
  ∀ service : Service, ((handle event).run service).1 = ((handle other).run service).1 ∧
    ((handle event).run service).2.store = ((handle other).run service).2.store

theorem HandledAlike.equivalence : Equivalence HandledAlike where
  refl _ _ := ⟨rfl, rfl⟩
  symm alike service := ⟨(alike service).1.symm, (alike service).2.symm⟩
  trans first second service := ⟨(first service).1.trans (second service).1, (first service).2.trans (second service).2⟩

theorem handledAlike_of_restated (restated : Restated value other) : HandledAlike value other := by
  intro service
  rw [outcome_handle, outcome_handle, store_handle, store_handle]
  exact (reading_restated restated).settles service

/-- The normal form of a subscription or a price, and what handling an announcement comes to, do not depend on how
the provider represents an object or on where an invoice refers to its subscription. -/
theorem representation_immaterial :
    (∀ value other, Restates .subscription value other → Payload.subscription value = Payload.subscription other) ∧
    (∀ value other, Restates .price value other → Payload.price value = Payload.price other) ∧
    ∀ event other, Relation.EqvGen Restated event other → HandledAlike event other :=
  ⟨fun _ _ => subscription_eq_of_restates, fun _ _ => price_eq_of_restates, fun _ _ restated =>
    HandledAlike.equivalence.eqvGen_iff.mp (restated.mono fun _ _ => handledAlike_of_restated)⟩

namespace Restatement

def whole (id : String) : Value := .handle (.record [("id", .text id)])

def price : Value := .record [("id", .text "price_1"), ("product", .text "prod_basic")]

def priceHandle : Value := .handle (.record [("id", .text "price_1"), ("product", whole "prod_basic")])

def subscriptionHandle : Value :=
  .handle (.record [("id", .text "sub_1"), ("customer", whole "cus_1"), ("status", .text "active"),
    ("current_period_start", Sample.stamp 0 32400), ("current_period_end", Sample.stamp 30 32400),
    ("items", .handle (.record [("data", .list [.handle (.record [("price", priceHandle)])])]))])

def paid (invoice : Fields) : Value :=
  .record [("id", .text "evt_1"), ("type", .text "invoice.paid"), ("data", .record [("object", .record invoice)])]

def invoice : Fields := [("id", .text "in_1"), ("customer", .text "cus_1"), ("subscription", .text "sub_1")]

def invoiceOfWhole : Fields := [("id", .text "in_1"), ("customer", whole "cus_1"), ("subscription", whole "sub_1")]

def invoiceByParent : Fields :=
  [("id", .text "in_1"), ("customer", whole "cus_1"),
    ("parent", .record [("subscription_details", .record [("subscription", whole "sub_1")])])]

theorem whole_restates (id : String) : Restates .reference (.text id) (whole id) :=
  .named (.text id) (.object (.handle _) rfl)

theorem price_restates : Restates .price price priceHandle :=
  .object (.record _) (.handle _) (.cons (.same _ _) (.cons (whole_restates _) (.nil _)))

theorem subscription_restates :
    Restates .subscription (Sample.subscription "sub_1" "active" "prod_basic") subscriptionHandle := by
  have leader : Restates .item (.record [("price", price)]) (.handle (.record [("price", priceHandle)])) :=
    .object (.record _) (.handle _) (.cons price_restates (.nil _))
  have items : Restates (.page .item) (.record [("data", .list [.record [("price", price)]])])
      (.handle (.record [("data", .list [.handle (.record [("price", priceHandle)])])])) :=
    .object (.record _) (.handle _) (.cons (.list (.cons leader (.nil _))) (.nil _))
  exact .object (.record _) (.handle _) (.cons (.same _ _) (.cons (whole_restates _) (.cons (.same _ _)
    (.cons (.same _ _) (.cons (.same _ _) (.cons items (.nil _)))))))

theorem paid_restates : Restates .announcement (paid invoice) (paid invoiceOfWhole) := by
  have subject : Restates (.record Shape.subjectParts) (.record invoice) (.record invoiceOfWhole) :=
    .record (.cons (.same _ _) (.cons (whole_restates _) (.cons (whole_restates _) (.nil _))))
  exact .record (.cons (.same _ _) (.cons (.same _ _) (.cons (.record (.cons subject (.nil _))) (.nil _))))

theorem invoice_moved : Moved invoiceOfWhole invoiceByParent := by
  refine ⟨fun name direct parent => ?_, rfl, ⟨_, _, .record _, .record _, rfl⟩, fun id read nothing => ?_⟩
  · simp [Fields.get, invoiceOfWhole, invoiceByParent, List.lookup_cons, beq_eq_false_iff_ne.mpr direct,
      beq_eq_false_iff_ne.mpr parent]
  · cases read
    cases nothing

end Restatement

/-- Out of handles comes what comes of records, and an invoice that names its subscription by its parent is acted on. -/
theorem representation_immaterial_at_shop :
    Payload.subscription Restatement.subscriptionHandle = .ok (Sample.normal "sub_1" "active" "prod_basic") ∧
    Payload.price Restatement.priceHandle = .ok ⟨"price_1", "prod_basic", none⟩ ∧
    HandledAlike (Restatement.paid Restatement.invoice) (Restatement.paid Restatement.invoiceByParent) ∧
    ((handle (Restatement.paid Restatement.invoiceByParent)).run Sample.shop).1 = .ok true := by
  obtain ⟨subscriptions, prices, announcements⟩ := representation_immaterial
  have subscription := subscriptions _ _ Restatement.subscription_restates
  have price := prices _ _ Restatement.price_restates
  have alike : HandledAlike (Restatement.paid Restatement.invoice) (Restatement.paid Restatement.invoiceByParent) :=
    announcements _ _ (.trans _ _ _ (.rel _ _ (.represented Restatement.paid_restates))
      (.rel _ _ (.moved rfl rfl ⟨_, rfl, rfl⟩ ⟨_, rfl, rfl⟩ Restatement.invoice_moved)))
  exact ⟨subscription.symm.trans rfl, price.symm.trans rfl, alike, (alike Sample.shop).1.symm.trans rfl⟩

end Webhook

end PaidAccess
