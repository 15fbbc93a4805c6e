import PaidAccess.Proofs.Reconciliation.Effect
import PaidAccess.Proofs.Store.Search
/-!
Whom an event is about, and what becomes of the user's customer. The customer of the event is tried
first and recorded afterwards, so a user that was found by reference is found by customer the next time.
-/

namespace PaidAccess

theorem present?_eq_some_iff {text : Option String} {content : String} :
    present? text = some content ↔ text = some content ∧ content ≠ "" := by
  cases text with
  | none => simp [present?]
  | some other =>
    by_cases blank : other = ""
    · simp only [present?, blank, ↓reduceIte, reduceCtorEq, false_iff, not_and, Option.some.injEq]
      rintro rfl
      exact fun filled => filled rfl
    · simp only [present?, blank, ↓reduceIte, Option.some.injEq]
      constructor
      · rintro rfl
        exact ⟨rfl, blank⟩
      · exact And.left

namespace ReconcileEvent

variable (event : ReconcileEvent) (user : User)

@[simp] theorem adopted_id : (event.adopted user).id = user.id := by
  unfold adopted
  split <;> rfl

@[simp] theorem adopted_adopted : event.adopted (event.adopted user) = event.adopted user := by
  unfold adopted
  split <;> rfl

theorem adopted_of_customer {customer : String} (named : present? event.customerId = some customer) :
    (event.adopted user).customerId = .text customer := by
  simp [adopted, named]

end ReconcileEvent

namespace MemoryStore

variable {store : MemoryStore} {event : ReconcileEvent} {user : User}

def customer? (store : MemoryStore) (event : ReconcileEvent) : Option User :=
  (present? event.customerId).bind fun customer => store.users.values.find? (·.customerId == .text customer)

theorem userOfCustomer_eq (store : MemoryStore) (event : ReconcileEvent) :
    store.userOfCustomer (.ofText? event.customerId) = store.customer? event := by
  unfold userOfCustomer customer?
  cases event.customerId with
  | none => rfl
  | some customer =>
    by_cases blank : customer = ""
    · simp [present?, blank, Value.ofText?, Value.ofOption, Value.truthy]
    · simp [present?, blank, Value.ofText?, Value.ofOption, Value.truthy]

theorem resolve_eq (store : MemoryStore) (event : ReconcileEvent) :
    store.resolve event = match store.customer? event with
      | some user => .ok (some user)
      | none => store.userOfId (.ofText? event.userReference) := by
  unfold resolve findUser
  cases found : store.customer? event with
  | none => simp only [userOfCustomer_eq, found]
  | some user => simp only [userOfCustomer_eq, found]

theorem customer?_of_users {other : MemoryStore} (same : other.users = store.users) :
    other.customer? event = store.customer? event := by
  simp only [customer?, same]

theorem resolve_of_users {other : MemoryStore} (same : other.users = store.users) :
    other.resolve event = store.resolve event := by
  simp only [resolve_eq, customer?, userOfId, same]

theorem customerId_of_customer? {customer : String} (named : present? event.customerId = some customer)
    (found : store.customer? event = some user) : user.customerId = .text customer := by
  rw [customer?, named, Option.bind_some] at found
  have passed := List.find?_some found
  exact beq_iff_eq.mp passed

theorem get?_of_userOfId {id : Value} (found : store.userOfId id = .ok (some user)) :
    ∃ key, id = .text key ∧ store.users.get? key = some user := by
  unfold userOfId at found
  split at found
  next => exact text_of_atKey found
  next => cases found

theorem exists_resolve (store : MemoryStore) (event : ReconcileEvent) : ∃ found, store.resolve event = .ok found := by
  rw [resolve_eq]
  cases store.customer? event with
  | some user => exact ⟨_, rfl⟩
  | none =>
    unfold userOfId
    cases event.userReference with
    | none => exact ⟨_, rfl⟩
    | some name =>
      by_cases filled : (Value.ofText? (some name)).truthy = true
      · exact ⟨store.users.get? name, by rw [if_pos filled]; rfl⟩
      · exact ⟨none, by rw [if_neg filled]⟩

theorem resolve_of_unnamed (customer : present? event.customerId = none)
    (reference : present? event.userReference = none) : store.resolve event = .ok none := by
  rw [resolve_eq, customer?, customer, Option.bind_none]
  cases named : event.userReference with
  | none => rfl
  | some name =>
    have blank : name = "" := by
      refine Decidable.byContradiction fun filled => ?_
      rw [present?_eq_some_iff.mpr ⟨named, filled⟩] at reference
      cases reference
    subst blank
    rfl

theorem get?_of_resolve (keyed : store.Keyed) (found : store.resolve event = .ok (some user)) :
    store.users.get? user.id = some user := by
  rw [resolve_eq] at found
  split at found
  next other byCustomer =>
    cases found
    unfold customer? at byCustomer
    obtain ⟨customer, -, listed⟩ := Option.bind_eq_some_iff.mp byCustomer
    exact keyed.users.mem_values_iff.mp (List.mem_of_find?_eq_some listed)
  next absent =>
    obtain ⟨key, -, here⟩ := get?_of_userOfId found
    rwa [keyed.users.name_eq here]

theorem adopt_users (keyed : store.Keyed) (found : store.resolve event = .ok (some user)) :
    (store.adopt event user).users = store.users.insert user.id (event.adopted user) := by
  have here := get?_of_resolve keyed found
  unfold adopt ReconcileEvent.adopted
  split
  next => exact (OrderedMap.insert_of_get? here).symm
  next customer _ =>
    split
    next same =>
      rw [← same]
      exact (OrderedMap.insert_of_get? here).symm
    next => rw [assignCustomer, here]

theorem adopt_eq (store : MemoryStore) (event : ReconcileEvent) (user : User) :
    store.adopt event user = { store with users := (store.adopt event user).users } := by
  unfold adopt assignCustomer
  split
  next => rfl
  next =>
    split
    next => rfl
    next => split <;> rfl

theorem adopt_entitlements (store : MemoryStore) (event : ReconcileEvent) (user : User) :
    (store.adopt event user).entitlements = store.entitlements := by
  rw [adopt_eq]

theorem adopt_usage (store : MemoryStore) (event : ReconcileEvent) (user : User) :
    (store.adopt event user).usage = store.usage := by
  rw [adopt_eq]

theorem adopt_plans (store : MemoryStore) (event : ReconcileEvent) (user : User) :
    (store.adopt event user).plans = store.plans := by
  rw [adopt_eq]

theorem adopt_adopted (store : MemoryStore) (event : ReconcileEvent) (user : User) :
    store.adopt event (event.adopted user) = store := by
  unfold adopt
  split
  next => rfl
  next customer named => rw [if_pos (event.adopted_of_customer user named)]

theorem customer?_adopt (keyed : store.Keyed) (found : store.resolve event = .ok (some user)) {customer : String}
    (named : present? event.customerId = some customer) :
    (store.adopt event user).customer? event = some (event.adopted user) := by
  cases known : store.customer? event with
  | some other =>
    have same : other = user := by
      rw [resolve_eq, known] at found
      simpa using found
    subst same
    have paying := customerId_of_customer? named known
    have unchanged : store.adopt event other = store := by simp [adopt, named, paying]
    have kept : event.adopted other = other := by
      simp only [ReconcileEvent.adopted, named, ← paying]
    rw [unchanged, kept, known]
  | none =>
    have missing : store.users.values.find? (·.customerId == .text customer) = none := by
      simpa [customer?, named] using known
    rw [customer?, named, Option.bind_some, adopt_users keyed found]
    refine OrderedMap.find?_values_insert missing ?_
    rw [event.adopted_of_customer user named]
    exact beq_self_eq_true _

theorem resolve_adopt (keyed : store.Keyed) (found : store.resolve event = .ok (some user)) :
    (store.adopt event user).resolve event = .ok (some (event.adopted user)) := by
  cases named : present? event.customerId with
  | none =>
    have unchanged : store.adopt event user = store := by simp [adopt, named]
    have same : event.adopted user = user := by simp [ReconcileEvent.adopted, named]
    rw [unchanged, same, found]
  | some customer => rw [resolve_eq, customer?_adopt keyed found named]

theorem Keyed.adopt (keyed : store.Keyed) (event : ReconcileEvent) (user : User) :
    (store.adopt event user).Keyed := by
  unfold MemoryStore.adopt
  split
  next => exact keyed
  next =>
    split
    next => exact keyed
    next customer _ _ => exact keyed.assignCustomer user.id (.text customer)

end MemoryStore

end PaidAccess
