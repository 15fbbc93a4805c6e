import PaidAccess.Provider.Request
import PaidAccess.Store.OrderedMap
import PaidAccess.Json.Encoding
/-!
A provider that answers from tables. In what the tables hold and in the messages that it is asked to open,
a record with a single field of a certain name stands for a handle.
-/

namespace PaidAccess

namespace Handle

/-- The name of the field that marks a handle. -/
def mark : String := "$obj"

mutual

def unmark : Value → Value
  | .list items => .list (unmarkItems items)
  | .record [(name, contents)] =>
      if name = mark then .handle (unmark contents) else .record [(name, unmark contents)]
  | .record fields => .record (unmarkFields fields)
  | value => value

def unmarkItems : List Value → List Value
  | [] => []
  | item :: rest => unmark item :: unmarkItems rest

def unmarkFields : List (String × Value) → List (String × Value)
  | [] => []
  | (name, value) :: rest => (name, unmark value) :: unmarkFields rest

end

end Handle

/-- A provider made of tables: subscriptions and prices by id, and the customers of an email. -/
structure ProviderTables where
  subscriptions : OrderedMap String Value
  prices : OrderedMap String Value
  customers : OrderedMap String (List Value)
  /-- Whether objects are handed out as handles instead of records. -/
  handles : Bool

namespace ProviderTables

def empty : ProviderTables := ⟨∅, ∅, ∅, false⟩

def wrap (tables : ProviderTables) (value : Value) : Value :=
  if tables.handles then .handle value else value

def nextNumber (served : List ProviderRequest) (method : ProviderMethod) : Nat :=
  (served.filter fun request => request.method = method).length + 1

def created (fields : Fields) : Value := .handle (.record fields)

def session (id site : String) : Value :=
  created [("id", .text id), ("url", .text (site ++ id))]

/-- The entry of a table for what is asked for. Lists and records cannot be asked for. -/
def entry? {α : Type} (table : OrderedMap String α) : Value → Outcome (Option α)
  | .text key => .ok (table.get? key)
  | .list _ | .record _ => .error .mismatch
  | _ => .ok none

def retrieve (tables : ProviderTables) (kind : String) (table : OrderedMap String Value) (id : Value) :
    Outcome Value := do
  match ← entry? table id with
  | some value => return tables.wrap value
  | none => throw (.provider ("No such " ++ kind ++ ": '" ++ id.display ++ "'"))

def answer (tables : ProviderTables) (served : List ProviderRequest) : ProviderRequest → Outcome Value
  | .retrieveSubscription id => tables.retrieve "subscription" tables.subscriptions id
  | .retrievePrice id => tables.retrieve "price" tables.prices id
  | .listCustomers email => do
      let ids := (← entry? tables.customers email).getD []
      return tables.wrap (.record [("data", .list (ids.map fun id => .record [("id", id)]))])
  | .createCustomer .. =>
      .ok (created [("id", .text s!"cus_new{nextNumber served .createCustomer}")])
  | .createCheckout _ =>
      .ok (session s!"cs_{nextNumber served .createCheckout}" "https://checkout.test/")
  | .createPortal .. =>
      .ok (session s!"bps_{nextNumber served .createPortal}" "https://billing.test/")
  | .openEvent payload signature _ _ =>
      if signature = .text "bad" then .error (.provider "bad signature")
      else
        match Json.readBytes payload with
        | .ok event => .ok (tables.wrap (Handle.unmark event))
        | .error (.tooDeep isList) => .error (.exhausted isList)
        | .error _ => .error (.rejected "Invalid payload")

/-- Whether a provider made of tables takes a request. Its customers have no names, so it takes no
request that gives one. -/
def takes : ProviderRequest → Bool
  | .createCustomer _ name _ => !name.truthy
  | _ => true

def provider (tables : ProviderTables) (served : List ProviderRequest) : Provider :=
  ⟨takes, tables.answer, served⟩

end ProviderTables

end PaidAccess
