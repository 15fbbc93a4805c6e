import PaidAccess.Proofs.Service.Moves
import PaidAccess.Proofs.Service.Sample
/-!
Who pays through which customer. The provider's customers are to belong to one user each, as that is how an announcement
finds its user. Events keep it so: the customer of an event is recorded for a user only if nobody has it yet. A checkout
records whatever customer the provider has for an email, whoever has it already.
-/

namespace PaidAccess

open PaidAccess.Action Reconciliation

namespace MemoryStore

variable {store after : MemoryStore} {event : ReconcileEvent} {user : User}

def OneCustomerEach (store : MemoryStore) : Prop := store.users.Apart User.customer?

def HasAlone (store : MemoryStore) (userId : String) (customerId : Value) : Prop :=
  store.users.Alone User.customer? userId customerId

theorem customerId_of_customer?_eq {customerId : Value} (pays : user.customer? = some customerId) :
    user.customerId = customerId ∧ customerId.truthy = true := by
  unfold User.customer? at pays
  split at pays
  next filled =>
    cases pays
    exact ⟨rfl, filled⟩
  next => cases pays

theorem hasAlone_of_resolve (keyed : store.Keyed) (apart : store.OneCustomerEach)
    (found : store.resolve event = .ok (some user)) {customerId : Value}
    (pays : (event.adopted user).customer? = some customerId) : store.HasAlone user.id customerId := by
  intro other held there paysToo
  have here := get?_of_resolve keyed found
  cases named : present? event.customerId with
  | none =>
    have same : event.adopted user = user := by simp [ReconcileEvent.adopted, named]
    rw [same] at pays
    exact apart other user.id held user customerId there here paysToo pays
  | some customer =>
    have label : Value.text customer = customerId := by
      rw [← event.adopted_of_customer user named]
      exact (customerId_of_customer?_eq pays).1
    subst label
    have holds : held.customerId = .text customer := (customerId_of_customer?_eq paysToo).1
    cases known : store.customer? event with
    | none =>
      -- the customer was looked for among all users
      rw [customer?, named, Option.bind_some, List.find?_eq_none] at known
      have listed : held ∈ store.users.values := by
        rw [keyed.users.mem_values_iff, keyed.users.name_eq there]
        exact there
      exact absurd (beq_iff_eq.mpr holds) (known held listed)
    | some owner =>
      have same : owner = user := by
        rw [resolve_eq, known] at found
        simpa using found
      subst same
      have paying : owner.customer? = some (.text customer) := by
        unfold User.customer?
        rw [customerId_of_customer? named known, if_pos (customerId_of_customer?_eq pays).2]
      exact apart other owner.id held owner _ there here paysToo paying

theorem Affected.oneCustomerEach {service : Service} (affected : Affected service event store after)
    (keyed : store.Keyed) (apart : store.OneCustomerEach) : after.OneCustomerEach := by
  unfold OneCustomerEach
  rcases affected.users with same | ⟨user, found, recorded⟩
  · rw [same]
    exact apart
  · rw [recorded, adopt_users keyed found, OrderedMap.Apart.insert_iff apart]
    exact fun customerId pays => hasAlone_of_resolve keyed apart found pays

theorem get?_of_requester (keyed : store.Keyed) {userId email : Value}
    (known : store.requester userId email = .ok (some user)) : store.users.get? user.id = some user := by
  obtain ⟨byId, looked, known⟩ := Outcome.bind_eq_ok_iff.mp known
  cases byId with
  | some other =>
    cases known
    split at looked
    next =>
      have found : store.userOfId userId = .ok (some user) := looked
      obtain ⟨key, -, here⟩ := get?_of_userOfId found
      rwa [keyed.users.name_eq here]
    next => cases looked
  | none =>
    have listed := Except.ok.inj known
    split at listed
    next => exact keyed.users.mem_values_iff.mp (List.mem_of_find?_eq_some listed)
    next => cases listed

theorem Paying.account {left : MemoryStore} {customerId : Value} (paying : store.Paying (some user) customerId left)
    (there : store.users.get? user.id = some user) (filled : customerId.truthy = true) :
    ∃ account, left.users.get? user.id = some account ∧ account.customer? = some customerId := by
  cases paying with
  | own user holds => exact ⟨user, there, holds⟩
  | unnamed => cases filled
  | adopted user lacks customer =>
    refine ⟨{ user with customerId := .text customer }, ?_, if_pos filled⟩
    rw [store.assignCustomer_users there, OrderedMap.get?_insert_self]

end MemoryStore

/-- Whether a checkout records a customer for a user. -/
def Service.Adopts (service : Service) (userId email : Value) (user : User) (customer : String) : Prop :=
  ((Checkout.parties userId email).run service).1 = .ok (some user, .text customer) ∧ user.customer? = none

/-- Whether a move records no customer that belongs to somebody else. -/
def Service.AdoptsFree (service : Service) (store : MemoryStore) (move : Move) : Prop :=
  ∀ priceId email userId, move = .call (.checkout priceId email userId) → ∀ user customer,
    service.Adopts userId email user customer → customer ≠ "" → store.HasAlone user.id (.text customer)

namespace Checkout.Settled

variable {service : Service} {store after : MemoryStore} {userId email : Value}

theorem oneCustomerEach_iff (settled : Settled service store userId email after) (keyed : store.Keyed)
    (apart : store.OneCustomerEach) :
    after.OneCustomerEach ↔ ∀ user customer, service.Adopts userId email user customer → customer ≠ "" →
      store.HasAlone user.id (.text customer) := by
  have idle : after = store → (∀ user customer, ¬ service.Adopts userId email user customer) →
      (after.OneCustomerEach ↔ ∀ user customer, service.Adopts userId email user customer → customer ≠ "" →
        store.HasAlone user.id (.text customer)) := by
    rintro rfl never
    exact ⟨fun _ user customer adopts => (never user customer adopts).elim, fun _ => apart⟩
  cases settled with
  | failed refused same =>
    refine idle same fun user customer ⟨found, _⟩ => ?_
    cases refused.symm.trans found
  | agreed found known paying =>
    cases paying with
    | own owner holds =>
      refine idle rfl fun user customer ⟨foundToo, lacks⟩ => ?_
      cases found.symm.trans foundToo
      cases holds.symm.trans lacks
    | unnamed _ =>
      refine idle rfl fun user customer ⟨foundToo, _⟩ => ?_
      cases found.symm.trans foundToo
    | guest _ =>
      refine idle rfl fun user customer ⟨foundToo, _⟩ => ?_
      cases found.symm.trans foundToo
    | adopted user lacks customer =>
      have label : ∀ mark, { user with customerId := .text customer }.customer? = some mark ↔
          customer ≠ "" ∧ .text customer = mark := by
        intro mark
        simp [User.customer?, Value.truthy]
      have recorded := store.assignCustomer_users (MemoryStore.get?_of_requester keyed known) (.text customer)
      unfold MemoryStore.OneCustomerEach
      rw [recorded, OrderedMap.Apart.insert_iff apart]
      constructor
      · rintro alone other customerToo ⟨foundToo, -⟩ filled
        cases found.symm.trans foundToo
        exact alone _ ((label _).mpr ⟨filled, rfl⟩)
      · intro free mark labelled
        obtain ⟨filled, rfl⟩ := (label mark).mp labelled
        exact free user customer ⟨found, lacks⟩ filled

end Checkout.Settled

theorem Move.Effect.oneCustomerEach_iff {service : Service} {store after : MemoryStore} {move : Move}
    (keyed : store.Keyed) (apart : store.OneCustomerEach) (effect : move.Effect service store after) :
    after.OneCustomerEach ↔ service.AdoptsFree store move := by
  cases effect with
  | event event about affected =>
    refine ⟨fun _ priceId email userId requested => ?_, fun _ => affected.oneCustomerEach keyed apart⟩
    subst requested
    cases about
  | checkout priceId email userId requested settled =>
    rw [settled.oneCustomerEach_iff keyed apart]
    subst requested
    constructor
    · rintro free _ _ _ ⟨⟩
      exact free
    · exact fun free => free priceId email userId rfl
  | other about unrequested granted =>
    refine ⟨fun _ priceId email userId requested => (unrequested priceId email userId requested).elim, fun _ => ?_⟩
    unfold MemoryStore.OneCustomerEach
    rw [granted.users]
    exact apart

/-- Along a run, a customer belongs to one user at most exactly if no checkout records one that somebody else has: the
provider's first customer for the email, or the one that it creates. Whatever is announced or simulated, it stays so. -/
theorem customers_apart_iff {service : Service} {store : MemoryStore} (memory : service.store = .memory store)
    (keyed : store.Keyed) (apart : store.OneCustomerEach) (moves : List Move) :
    (∀ earlier, earlier <+: moves → ∃ left, (service.follow earlier).store = .memory left ∧ left.OneCustomerEach) ↔
      ∀ earlier move left, earlier ++ [move] <+: moves → (service.follow earlier).store = .memory left →
        (service.follow earlier).AdoptsFree left move :=
  Service.follow_keeps_iff Move.Effect.oneCustomerEach_iff memory keyed apart moves

namespace Sample

def newcomer : User := ⟨"u2", some "u2@x.test", none, .null⟩

def joined : MemoryStore := store.addUser newcomer

def knownCustomer (customer : String) : Service :=
  service (march 0 36000) joined
    { ProviderTables.empty with customers := .ofList [("u2@x.test", [.text customer])] }

def newcomerCheckout : Move := .call (.checkout (.text "price_1") (.text "u2@x.test") (.text "u2"))

theorem joined_keyed : joined.Keyed := store_keyed.addUser newcomer

theorem joined_oneCustomerEach : joined.OneCustomerEach := .of_entries (by decide)

def customersOf (service : Service) : Option (List (Option Value)) :=
  service.memory?.map fun store => store.users.values.map User.customer?

end Sample

/-- The newcomer gets a customer that nobody has. -/
theorem customers_apart_of_checkout :
    (∀ earlier, earlier <+: [Sample.newcomerCheckout] → ∃ left,
      ((Sample.knownCustomer "cus_2").follow earlier).store = .memory left ∧ left.OneCustomerEach) ∧
      Sample.customersOf ((Sample.knownCustomer "cus_2").follow [Sample.newcomerCheckout]) =
        some [some (.text "cus_1"), some (.text "cus_2")] := by
  have settled : ((Checkout.parties (.text "u2") (.text "u2@x.test")).run (Sample.knownCustomer "cus_2")).1 =
      .ok (some Sample.newcomer, .text "cus_2") := Outcome.eq_ok_of_toOption (by decide +kernel)
  refine ⟨(customers_apart_iff rfl Sample.joined_keyed Sample.joined_oneCustomerEach [Sample.newcomerCheckout]).mpr ?_,
    by decide +kernel⟩
  intro earlier move left taken stored priceId email userId requested user customer adopts _
  obtain ⟨rfl, rfl⟩ : earlier = [] ∧ move = Sample.newcomerCheckout := by
    cases earlier with
    | nil => simpa using taken
    | cons first rest => simpa using List.IsPrefix.length_le taken
  cases stored
  cases requested
  cases settled.symm.trans adopts.1
  exact .of_entries (by decide)

/-- Nobody shared a customer until a user went to the checkout with an email that the provider has another user's
customer for. -/
theorem customers_shared_by_email :
    Sample.joined.OneCustomerEach ∧
      ∃ left, ((Sample.knownCustomer "cus_1").follow [Sample.newcomerCheckout]).store = .memory left ∧
        ¬ left.OneCustomerEach := by
  have shared : (((Sample.knownCustomer "cus_1").follow [Sample.newcomerCheckout]).memory?.map fun store =>
      ((store.users.get? "u1").bind User.customer?, (store.users.get? "u2").bind User.customer?)) =
        some (some (.text "cus_1"), some (.text "cus_1")) := by
    decide +kernel
  have began : (Sample.knownCustomer "cus_1").store = .memory Sample.joined := rfl
  obtain ⟨left, stored, -⟩ := Service.exists_follow began Sample.joined_keyed [Sample.newcomerCheckout]
  rw [Service.memory?_eq stored, Option.map_some, Option.some_inj, Prod.mk.injEq] at shared
  obtain ⟨one, there, pays⟩ := Option.bind_eq_some_iff.mp shared.1
  obtain ⟨two, thereToo, paysToo⟩ := Option.bind_eq_some_iff.mp shared.2
  refine ⟨Sample.joined_oneCustomerEach, left, stored, fun apart => ?_⟩
  exact absurd (apart "u1" "u2" one two _ there thereToo pays paysToo) (by decide)

end PaidAccess
