import PaidAccess.Proofs.Service.Customers
/-!
What a request for a session sells. It opens exactly one session, for the portal if the user is subscribed and for the
checkout otherwise, or it fails and has opened none. Of the store it changes at most who pays for the user.
-/

namespace PaidAccess

open PaidAccess.Action

/-- What a request for a session may do to a store: the user that it is for is given a customer if there was none, and
nothing else changes. -/
inductive MemoryStore.Filled (store : MemoryStore) (userId email : Value) : MemoryStore → Prop where
  | same : store.Filled userId email store
  | filled (user : User) (customer : String) (known : store.requester userId email = .ok (some user))
      (lacks : user.customer? = none) :
      store.Filled userId email
        { store with users := store.users.insert user.id { user with customerId := .text customer } }

theorem MemoryStore.Paying.fills {store left : MemoryStore} {user : Option User} {customerId userId email : Value}
    (paying : store.Paying user customerId left) (keyed : store.Keyed)
    (known : store.requester userId email = .ok user) : store.Filled userId email left := by
  cases paying with
  | own | unnamed | guest => exact .same
  | adopted user lacks customer =>
    unfold MemoryStore.assignCustomer
    rw [get?_of_requester keyed known]
    exact .filled user customer known lacks

theorem ProviderTables.namesSessions (tables : ProviderTables) (served : List ProviderRequest) :
    (tables.provider served).NamesSessions := by
  have named : ∀ (start : String) (number : Nat), s!"{start}{number}" ≠ "" := by
    intro start number empty
    have length := congrArg String.length empty
    simp [String.length_append] at length
  intro before request answer opens answered
  cases request with
  | createCheckout order =>
    cases answered
    exact ⟨_, _, named "cs_" _, rfl⟩
  | createPortal customerId returnUrl =>
    cases answered
    exact ⟨_, _, named "bps_" _, rfl⟩
  | _ => cases opens

namespace Checkout

/-- What a request for a session comes to when it succeeds, given what has come of the run. -/
structure Sold (service : Service) (store : MemoryStore) (priceId email userId : Value) (session : SessionResult)
    (left : MemoryStore) (trace : Trace) : Prop where
  /-- The session is the last thing that the provider is asked for, and the only one that it opens. -/
  once : ∃ before request answer, trace.answered = before ++ [request] ∧ (∀ earlier ∈ before, earlier.opens = none) ∧
    request.opens = some session.kind ∧
    service.provider.answer (service.provider.served ++ before) request = .ok answer ∧
    ProviderClient.sessionOf answer = .ok ⟨.ofText? session.sessionId, .ofText? session.url⟩
  portal : session.kind = .portal ↔
    ∃ user, store.requester userId email = .ok (some user) ∧ store.Subscribed service.now user.id
  /-- A checkout is opened right after the provider told the price. -/
  priced : session.kind = .checkout → ∃ before order answer price,
    trace.answered = before ++ [.retrievePrice priceId, .createCheckout order] ∧
    service.provider.answer (service.provider.served ++ before) (.retrievePrice priceId) = .ok answer ∧
    Payload.price answer = .ok price
  scheduled : ∃ customerId reference, trace.scheduled =
    if session.kind = .checkout ∧ service.deployment.billing.simulationEnabled = true then
      [⟨.ofText? session.sessionId, priceId, customerId, reference, service.context⟩]
    else []
  production : service.deployment.billing.isProduction = true → trace.scheduled = []
  /-- Whoever the request is for is a customer afterwards. -/
  payer : ∀ user, store.requester userId email = .ok (some user) →
    ∃ account customerId, left.users.get? user.id = some account ∧ account.customer? = some customerId

/-- What a request for a session comes to, however it ends, given what has come of the run and the store that is left. -/
structure Accounted (service : Service) (store : MemoryStore) (priceId email userId : Value) (left : MemoryStore)
    (trace : Trace) (ran : Outcome SessionResult × Service) : Prop where
  filled : store.Filled userId email left
  traced : ran.2.Traced service left trace
  unsought : store.HasPayer userId email → ∀ request ∈ trace.sent, request.seeksCustomer = false
  sold : ∀ session, ran.1 = .ok session → Sold service store priceId email userId session left trace
  unsold : ∀ failure, ran.1 = .error failure → (∀ request ∈ trace.answered, request.opens = none) ∧ trace.scheduled = []

variable {service origin after : Service} {store left : MemoryStore} {priceId email userId customerId reference : Value}
  {user : Option User} {trace sold : Trace} {session : SessionResult} {payer : Prop}

theorem sent_passedOn (origin : Service) (offer : ProviderSession) (priceId customerId reference : Value) (trace : Trace) :
    (passedOn origin offer priceId customerId reference trace).sent = trace.sent := by
  unfold passedOn
  split <;> rfl

theorem answered_passedOn (origin : Service) (offer : ProviderSession) (priceId customerId reference : Value)
    (trace : Trace) : (passedOn origin offer priceId customerId reference trace).answered = trace.answered := by
  unfold passedOn
  split <;> rfl

theorem Offered.named {request : ProviderRequest} {offer : ProviderSession}
    (offered : Offered origin trace request offer session) (names : origin.provider.NamesSessions) :
    offer = ⟨.ofText? session.sessionId, .ofText? session.url⟩ ∧ offer.id.truthy = true := by
  obtain ⟨id, url, filled, rfl⟩ := offered.offers.named offered.opens names
  have shown := offered.shown
  rw [present_texts] at shown
  rw [← Except.ok.inj shown]
  exact ⟨rfl, by simpa [Value.truthy] using filled⟩

theorem Sale.unsought (sale : Sale origin priceId customerId reference trace session sold) (unsold : trace.Unsold payer)
    (pays : payer) : ∀ request ∈ sold.sent, request.seeksCustomer = false := by
  cases sale with
  | portal returnUrl offered => exact (unsold.asking fun _ => rfl).unsought pays
  | checkout order answered parsed offered =>
    rw [sent_passedOn]
    exact ((unsold.pricing priceId).asking fun _ => rfl).unsought pays

theorem Sale.once (sale : Sale origin priceId customerId reference trace session sold) (unsold : trace.Unsold payer)
    (names : origin.provider.NamesSessions) :
    ∃ before request answer, sold.answered = before ++ [request] ∧ (∀ earlier ∈ before, earlier.opens = none) ∧
      request.opens = some session.kind ∧
      origin.provider.answer (origin.provider.served ++ before) request = .ok answer ∧
      ProviderClient.sessionOf answer = .ok ⟨.ofText? session.sessionId, .ofText? session.url⟩ := by
  cases sale with
  | portal returnUrl offered =>
    obtain ⟨answer, answered, offers⟩ := offered.offers
    rw [(offered.named names).1] at offers
    exact ⟨trace.answered, _, answer, rfl, unsold.unopened, offered.opens, answered, offers⟩
  | checkout order priced parsed offered =>
    obtain ⟨answer, answered, offers⟩ := offered.offers
    rw [(offered.named names).1] at offers
    exact ⟨_, _, answer, answered_passedOn .., (unsold.pricing priceId).unopened, offered.opens, answered, offers⟩

theorem Sale.scheduled (sale : Sale origin priceId customerId reference trace session sold)
    (unsold : trace.Unsold payer) (names : origin.provider.NamesSessions) :
    sold.scheduled =
      if session.kind = .checkout ∧ origin.deployment.billing.simulationEnabled = true then
        [⟨.ofText? session.sessionId, priceId, customerId, reference, origin.context⟩]
      else [] := by
  cases sale with
  | portal returnUrl offered =>
    have kind : .portal = session.kind := Option.some.inj offered.opens
    rw [← kind, if_neg (nomatch ·.1)]
    exact unsold.unscheduled
  | checkout order answered parsed offered =>
    have kind : .checkout = session.kind := Option.some.inj offered.opens
    obtain ⟨shown, filled⟩ := offered.named names
    unfold passedOn
    rw [← kind, filled, Bool.and_true, shown]
    by_cases simulated : origin.deployment.billing.simulationEnabled = true
    · rw [if_pos simulated, if_pos ⟨rfl, simulated⟩]
      exact congrArg (· ++ _) unsold.unscheduled
    · rw [if_neg simulated, if_neg fun both => simulated both.2]
      exact unsold.unscheduled

theorem Completed.sells (completed : Completed service store priceId userId email user customerId left trace sold session
    after) (keyed : store.Keyed) (names : service.provider.NamesSessions) :
    Sold service store priceId email userId session left sold := by
  have waits := completed.sale.scheduled completed.unsold names
  refine ⟨completed.sale.once completed.unsold names, ?_, ?_, ⟨_, _, waits⟩, ?_, ?_⟩
  · rw [completed.portal]
    unfold MemoryStore.Subscribed
    rw [completed.paying.entitlements, completed.known]
    simp only [Except.ok.injEq]
  · intro checkout
    cases completed.sale with
    | portal returnUrl offered => cases offered.opens.trans (congrArg some checkout)
    | checkout order answered parsed offered =>
      refine ⟨trace.answered, order, _, _, ?_, answered, parsed⟩
      rw [answered_passedOn]
      exact List.append_assoc ..
  · intro production
    have disabled : service.deployment.billing.simulationEnabled = false := by
      simp [BillingConfig.simulationEnabled, production]
    rw [waits, disabled, if_neg fun simulated => Bool.false_ne_true simulated.2]
  · intro user known
    have paying := completed.paying
    cases completed.known.symm.trans known
    obtain ⟨account, here, pays⟩ := paying.account (MemoryStore.get?_of_requester keyed known) completed.filled
    exact ⟨account, customerId, here, pays⟩

/-- A request for a session opens exactly one, which is the last thing that the provider answers, or it fails and has
opened none. The portal is for subscribers, the checkout for everybody else once the price is known. An activation waits
exactly for a checkout that is simulated, which none is in production. The store changes at most by a customer for the
user that the request is for, and none is sought for a user who has one. -/
theorem start_exact (priceId email userId : Value) (memory : service.store = .memory store) (keyed : store.Keyed)
    (names : service.provider.NamesSessions) :
    ∃ left trace,
      Accounted service store priceId email userId left trace ((start priceId email userId).run service) := by
  have ends := start_completes priceId email userId memory
  rcases ran : (start priceId email userId).run service with ⟨failure | session, after⟩
  · obtain ⟨left, withdrawn, trace, traced, still⟩ := ends.raised failure after ran
    have unsold := still names
    have filled : store.Filled userId email left := by
      rcases withdrawn with rfl | ⟨user, customerId, known, paying⟩
      · exact .same
      · exact paying.fills keyed known
    exact ⟨left, trace, filled, traced, unsold.unsought, nofun, fun _ _ => ⟨unsold.unopened, unsold.unscheduled⟩⟩
  · obtain ⟨user, customerId, left, trace, sold, completed⟩ := ends.returned session after ran
    refine ⟨left, sold, completed.paying.fills keyed completed.known, completed.traced,
      completed.sale.unsought completed.unsold, fun other same => ?_, nofun⟩
    cases same
    exact completed.sells keyed names

end Checkout

namespace Sample

def counter : Service :=
  { service (march 0 36000) joined
      { ProviderTables.empty with
        prices := .ofList [("price_1", .record [("id", .text "price_1"), ("product", .text "prod_basic")])]
        customers := .ofList [("u2@x.test", [.text "cus_2"])] } with
    deployment := { deployment with billing := { deployment.billing with runSimulation := true } } }

def takings (ran : Outcome SessionResult × Service) : Option (SessionKind × Nat) :=
  ran.1.toOption.map fun session => (session.kind, ran.2.simulations.length)

end Sample

namespace Checkout

/-- The newcomer is sent to the checkout, which is simulated. -/
theorem start_exact_of_newcomer :
    (∃ left trace, Accounted Sample.counter Sample.joined (.text "price_1") (.text "u2@x.test") (.text "u2") left trace
      ((start (.text "price_1") (.text "u2@x.test") (.text "u2")).run Sample.counter)) ∧
      Sample.takings ((start (.text "price_1") (.text "u2@x.test") (.text "u2")).run Sample.counter) =
        some (.checkout, 1) :=
  ⟨start_exact (.text "price_1") (.text "u2@x.test") (.text "u2") rfl Sample.joined_keyed
    (ProviderTables.namesSessions _ []), by decide +kernel⟩

end Checkout

end PaidAccess
