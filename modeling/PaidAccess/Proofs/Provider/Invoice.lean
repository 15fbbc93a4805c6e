import PaidAccess.Proofs.Provider.Statement
/-!
A well-formed paid invoice for a subscription, and the event that it stands for. Older invoices state their
subscription themselves, newer ones by their parent.
-/

namespace PaidAccess

open Reconciliation

theorem Reconciliation.ne_empty_of_hasBeginning {start content : String} (filled : start ≠ "")
    (begins : hasBeginning start content = true) : content ≠ "" := by
  rintro rfl
  have empty : start.toList = [] := by
    unfold hasBeginning at begins
    exact List.prefix_nil.mp (List.isPrefixOf_iff_prefix.mp begins)
  exact filled (String.toList_eq_nil_iff.mp empty)

namespace Payload

inductive Holds : Value → Fields → Prop where
  | null : Holds .null []
  | record (fields : Fields) : Holds (.record fields) fields

def ParentStates (invoice : Fields) (reference : Value) : Prop :=
  ∃ parent details, Holds (invoice.get "parent") parent ∧ Holds (parent.get "subscription_details") details ∧
    details.get "subscription" = reference

/-- The subscription of an invoice, at either of the places where it may stand. -/
inductive BilledFor (fields : Fields) (id : String) : Prop where
  | direct (names : Names (fields.get "subscription") (some id))
  | byParent {parent details : Fields} (silent : Names (fields.get "subscription") none)
      (above : Holds (fields.get "parent") parent) (inside : Holds (parent.get "subscription_details") details)
      (names : Names (details.get "subscription") (some id))

/-- A well-formed invoice for a subscription and its customer. -/
structure Bill (fields : Fields) (subscriptionId customerId : String) where
  metadata : Fields
  reference : Option String
  billed : BilledFor fields subscriptionId
  pays : Names (fields.get "customer") (some customerId)
  tagged : Holds (fields.get "metadata") metadata
  refers : metadata.get "user_id" = .ofText? reference
  isSubscription : hasBeginning "sub_" subscriptionId = true
  isCustomer : hasBeginning "cus_" customerId = true

theorem Holds.recordOrEmpty {value : Value} {fields : Fields} (holds : Holds value fields) :
    recordOrEmpty value = .ok fields := by
  cases holds with
  | null => rfl
  | record =>
    unfold Payload.recordOrEmpty
    cases fields <;> rfl

theorem ParentStates.invoiceSubscriptionId {fields : Fields} {reference : Value} (states : ParentStates fields reference) :
    invoiceSubscriptionId (.record fields) = (do
      let direct ← idOf (fields.get "subscription")
      if direct.truthy then return direct else idOf reference) := by
  obtain ⟨parent, details, above, inside, rfl⟩ := states
  unfold Payload.invoiceSubscriptionId
  simp only [record, bind, Except.bind, above.recordOrEmpty, inside.recordOrEmpty]

theorem BilledFor.invoiceSubscriptionId {fields : Fields} {id : String} (billed : BilledFor fields id)
    (filled : id ≠ "") : invoiceSubscriptionId (.record fields) = .ok (.text id) := by
  have present : (Value.text id).truthy = true := by simpa [Value.truthy] using filled
  cases billed with
  | direct names =>
    unfold Payload.invoiceSubscriptionId record
    simp only [bind, Except.bind, names.idOf, Value.ofText?, Value.ofOption, present, ↓reduceIte]
    rfl
  | byParent silent above inside names =>
    rw [ParentStates.invoiceSubscriptionId ⟨_, _, above, inside, rfl⟩, silent.idOf, names.idOf]
    rfl

namespace Bill

variable {fields : Fields} {subscriptionId customerId : String} (bill : Bill fields subscriptionId customerId)

def event : ReconcileEvent := .of .invoicePaid (some customerId) (some subscriptionId) bill.reference

theorem renewalEvent_eq : renewalEvent (.record fields) = .ok (some bill.event) := by
  have subscribed := ne_empty_of_hasBeginning (by decide) bill.isSubscription
  have known := ne_empty_of_hasBeginning (by decide) bill.isCustomer
  have ids : renewalIds (.text subscriptionId) (.text customerId) = .ok (some (subscriptionId, customerId)) := by
    unfold renewalIds
    simp [Value.truthy, subscribed, known, idText, bind, Except.bind, bill.isSubscription, bill.isCustomer]
    rfl
  have reference : metadataUserId fields = .ok (.ofText? bill.reference) := by
    unfold metadataUserId
    rw [bill.tagged.recordOrEmpty, ← bill.refers]
    rfl
  have paid : idOf (fields.get "customer") = .ok (.text customerId) := bill.pays.idOf
  unfold renewalEvent
  simp only [record, bind, Except.bind, bill.billed.invoiceSubscriptionId subscribed, paid, reference]
  rw [ids]
  dsimp only
  rw [Checked.nullable_ofText?]
  rfl

end Bill

end Payload

end PaidAccess
