import PaidAccess.Proofs.Provider.Statement
import PaidAccess.Proofs.Value.Fields
/-!
The same payload in different representations. Which parts of a payload may be represented in more than one way is said
by its shape: an object may be a record or a handle, and a reference may be an id or the whole object. Two payloads that
differ in the representation of such parts alone, whichever and however deep, have the same normal form, or fail alike.
-/

namespace PaidAccess.Payload

/-- How a value may be represented: in one way only, as an object, as a plain record with such values as fields, as a
reference to an object, or as a list of such values. -/
inductive Shape where
  | plain
  | object (parts : String → Shape)
  | record (parts : String → Shape)
  | reference
  | list (item : Shape)

mutual

/-- Two values of one shape that differ at most in the representation of their parts. -/
inductive Restates : Shape → Value → Value → Prop where
  | same (shape : Shape) (value : Value) : Restates shape value value
  | object {parts : String → Shape} {value other : Value} {fields others : Fields} (opens : Opens value fields)
      (opensToo : Opens other others) (restates : RestatesFields parts fields others) :
      Restates (.object parts) value other
  | record {parts : String → Shape} {fields others : Fields} (restates : RestatesFields parts fields others) :
      Restates (.record parts) (.record fields) (.record others)
  | named {value other : Value} {id : String} (names : Names value (some id)) (namesToo : Names other (some id)) :
      Restates .reference value other
  | whole {value other : Value} {fields others : Fields} (opens : Opens value fields) (opensToo : Opens other others)
      (bears : fields.get "id" = others.get "id") : Restates .reference value other
  | list {item : Shape} {items others : List Value} (restates : RestatesItems item items others) :
      Restates (.list item) (.list items) (.list others)

inductive RestatesFields : (String → Shape) → Fields → Fields → Prop where
  | nil (parts : String → Shape) : RestatesFields parts [] []
  | cons {parts : String → Shape} {name : String} {value other : Value} {fields others : Fields}
      (first : Restates (parts name) value other) (rest : RestatesFields parts fields others) :
      RestatesFields parts ((name, value) :: fields) ((name, other) :: others)

inductive RestatesItems : Shape → List Value → List Value → Prop where
  | nil (item : Shape) : RestatesItems item [] []
  | cons {item : Shape} {value other : Value} {items others : List Value} (first : Restates item value other)
      (rest : RestatesItems item items others) : RestatesItems item (value :: items) (other :: others)

end

namespace Shape

def flat : Shape := .object fun _ => .plain

def priceParts : String → Shape
  | "product" => .reference
  | "recurring" => flat
  | _ => .plain

def price : Shape := .object priceParts

def itemParts : String → Shape
  | "price" => price
  | _ => .plain

def item : Shape := .object itemParts

def lineParts : String → Shape
  | "period" => flat
  | _ => .plain

def line : Shape := .object lineParts

def pageParts (entry : Shape) : String → Shape
  | "data" => .list entry
  | _ => .plain

def page (entry : Shape) : Shape := .object (pageParts entry)

def invoiceParts : String → Shape
  | "lines" => page line
  | _ => .plain

def invoice : Shape := .object invoiceParts

def subscriptionParts : String → Shape
  | "items" => page item
  | "customer" => .reference
  | "latest_invoice" => invoice
  | "metadata" => flat
  | _ => .plain

def subscription : Shape := .object subscriptionParts

end Shape

/-- Two computations that fail alike or come to related results. -/
inductive Concur {α : Type} (related : α → α → Prop) : Outcome α → Outcome α → Prop where
  | ok {first second : α} (holds : related first second) : Concur related (.ok first) (.ok second)
  | error (failure : Failure) : Concur related (.error failure) (.error failure)

namespace Concur

variable {α β : Type} {related : α → α → Prop} {first second : Outcome α}

theorem refl (reflexive : ∀ value, related value value) (outcome : Outcome α) : Concur related outcome outcome := by
  cases outcome with
  | error failure => exact .error failure
  | ok value => exact .ok (reflexive value)

theorem bind {onward : β → β → Prop} {next after : α → Outcome β} (concur : Concur related first second)
    (rest : ∀ one other, related one other → Concur onward (next one) (after other)) :
    Concur onward (first >>= next) (second >>= after) := by
  cases concur with
  | error failure => exact .error failure
  | ok holds => exact rest _ _ holds

theorem bind_eq {next after : α → Outcome β} (concur : Concur related first second)
    (rest : ∀ one other, related one other → next one = after other) : first >>= next = second >>= after := by
  cases concur with
  | error failure => rfl
  | ok holds => exact rest _ _ holds

end Concur

variable {shape : Shape} {parts : String → Shape} {value other : Value} {fields others : Fields}

theorem RestatesFields.refl (parts : String → Shape) : ∀ fields : Fields, RestatesFields parts fields fields
  | [] => .nil parts
  | (_, value) :: rest => .cons (.same _ value) (refl parts rest)

namespace Restates

theorem eq (restates : Restates .plain value other) : value = other := by
  cases restates
  rfl

theorem getD {found foundToo : Option Value} (related : Option.Rel (Restates shape) found foundToo) :
    Restates shape (found.getD .null) (foundToo.getD .null) := by
  cases related with
  | none => exact .same shape .null
  | some restates => exact restates

theorem eq_of_rel {found foundToo : Option Value} (related : Option.Rel (Restates .plain) found foundToo) :
    found = foundToo := by
  cases related with
  | none => rfl
  | some restates => rw [restates.eq]

end Restates

namespace RestatesFields

theorem find? (name : String) : ∀ {fields others : Fields}, RestatesFields parts fields others →
    Option.Rel (Restates (parts name)) (Fields.find? name fields) (Fields.find? name others)
  | _, _, .nil _ => .none
  | _, _, @cons _ here _ _ _ _ first rest => by
    rw [Fields.find?_cons, Fields.find?_cons]
    split
    next asked =>
      subst asked
      exact .some first
    next => exact rest.find? name

theorem get (restates : RestatesFields parts fields others) (name : String) :
    Restates (parts name) (fields.get name) (others.get name) :=
  Restates.getD (restates.find? name)

theorem find?_eq (restates : RestatesFields parts fields others) (name : String) (plain : parts name = .plain) :
    Fields.find? name fields = Fields.find? name others :=
  Restates.eq_of_rel (plain ▸ restates.find? name)

theorem get_eq (restates : RestatesFields parts fields others) (name : String) (plain : parts name = .plain) :
    fields.get name = others.get name :=
  congrArg (·.getD .null) (restates.find?_eq name plain)

theorem textOf_eq (restates : RestatesFields parts fields others) (name : String) (plain : parts name = .plain) :
    textOf name fields = textOf name others := by
  unfold textOf
  rw [restates.find?_eq name plain]

theorem eq : ∀ {fields others : Fields}, RestatesFields (fun _ => .plain) fields others → fields = others
  | _, _, .nil _ => rfl
  | _, _, .cons first rest => by rw [first.eq, rest.eq]

end RestatesFields

namespace Restates

theorem expand (restates : Restates (.object parts) value other) :
    Concur (RestatesFields parts) (expand value) (expand other) := by
  cases restates with
  | same => exact .refl (RestatesFields.refl parts) _
  | object opens opensToo restates =>
    rw [opens.expand, opensToo.expand]
    exact .ok restates

theorem object_eq {α : Type} {tell : Value → α} (restates : Restates (.object parts) value other)
    (opened : ∀ {value : Value} {fields : Fields}, Opens value fields → tell value = tell (.record fields))
    (told : ∀ {fields others : Fields}, RestatesFields parts fields others → tell (.record fields) = tell (.record others)) :
    tell value = tell other := by
  cases restates with
  | same => rfl
  | object opens opensToo restates => rw [opened opens, opened opensToo, told restates]

theorem idOf_eq (restates : Restates .reference value other) : idOf value = idOf other := by
  cases restates with
  | same => rfl
  | named names namesToo => rw [names.idOf, namesToo.idOf]
  | whole opens opensToo bears => rw [opens.idOf, opensToo.idOf, bears]

theorem first? (restates : Restates (.list shape) value other) :
    Concur (Option.Rel (Restates shape)) (first? value) (first? other) := by
  cases restates with
  | same =>
    refine .refl (fun leading => ?_) _
    cases leading with
    | none => exact .none
    | some item => exact .some (.same shape item)
  | list restates =>
    cases restates with
    | nil => exact .ok .none
    | cons first rest => exact .ok (.some first)

theorem contents_eq (restates : Restates .flat value other) : contents value = contents other :=
  restates.object_eq (fun opens => opens.contents) fun restates => by rw [restates.eq]

theorem priceId_eq (restates : Restates .price value other) : idOf value = idOf other :=
  restates.object_eq (fun opens => opens.idOf) fun restates => congrArg Except.ok (restates.get_eq "id" rfl)

theorem productOf_eq (restates : Restates .price value other) : productOf value = productOf other :=
  restates.object_eq (fun opens => opens.productOf) fun restates => (restates.get "product").idOf_eq

theorem invoicePeriod_eq (restates : Restates .invoice value other) : invoicePeriod value = invoicePeriod other := by
  refine restates.object_eq (fun opens => opens.invoicePeriod) fun restates => ?_
  refine (Restates.expand (restates.get "lines")).bind_eq fun lines listed lists => ?_
  refine (Restates.first? (lists.get "data")).bind_eq fun first second leads => ?_
  cases leads with
  | none => rfl
  | some entry =>
    refine entry.expand.bind_eq fun line stated tells => ?_
    refine (Restates.expand (tells.get "period")).bind_eq fun period bounds agrees => ?_
    rw [agrees.eq]

end Restates

theorem subscription_eq_of_restates (restates : Restates .subscription value other) :
    subscription value = subscription other := by
  refine restates.expand.bind_eq fun fields others tells => ?_
  refine (Restates.expand (tells.get "items")).bind_eq fun items listed lists => ?_
  refine (Restates.first? (lists.get "data")).bind_eq fun first second leads => ?_
  cases leads
  case' none => refine Concur.bind_eq (.ok (RestatesFields.nil Shape.itemParts)) ?_
  case' some leader => refine leader.expand.bind_eq ?_
  -- Whether there is a first item or not, what is made of its fields is the same.
  all_goals
    intro item entry shows
    have price : Restates .price (item.get "price") (entry.get "price") := shows.get "price"
    have invoice : Restates .invoice (fields.get "latest_invoice") (others.get "latest_invoice") := tells.get "latest_invoice"
    have metadata : Restates .flat (fields.get "metadata") (others.get "metadata") := tells.get "metadata"
    have customer : Restates .reference (fields.get "customer") (others.get "customer") := tells.get "customer"
    simp only [price.priceId_eq, price.productOf_eq, invoice.invoicePeriod_eq, metadata.contents_eq, customer.idOf_eq,
      tells.get_eq "current_period_start" rfl, tells.get_eq "current_period_end" rfl,
      tells.get_eq "cancel_at_period_end" rfl, shows.get_eq "current_period_start" rfl,
      shows.get_eq "current_period_end" rfl, tells.textOf_eq "id" rfl, tells.textOf_eq "status" rfl]

theorem price_eq_of_restates (restates : Restates .price value other) : price value = price other := by
  refine restates.expand.bind_eq fun fields others tells => ?_
  have product : Restates .reference (fields.get "product") (others.get "product") := tells.get "product"
  simp only [product.idOf_eq, tells.get_eq "id" rfl, tells.textOf_eq "id" rfl]
  refine congrArg (bind (idOf (others.get "product"))) (funext fun productId => ?_)
  split
  next => rfl
  next =>
    refine (Restates.expand (tells.get "recurring")).bind_eq fun recurring charged agrees => ?_
    rw [agrees.eq]

end PaidAccess.Payload
