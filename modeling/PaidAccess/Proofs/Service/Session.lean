import PaidAccess.Proofs.Reconciliation.Interruption
import PaidAccess.Proofs.Service.Isolation
import PaidAccess.Proofs.Service.Trace
/-!
Opening a session of the provider. First it is settled whom the request is for and which customer pays, which may
record a customer for that user; nothing is written after that. The portal is opened for subscribers only, for the
customer that was settled on. A checkout is opened once the provider knows the price. The session is the last thing
that the provider is asked for, so a request that fails has opened none.
-/

namespace PaidAccess

open PaidAccess.Action

def ProviderRequest.opens : ProviderRequest → Option SessionKind
  | .createCheckout _ => some .checkout
  | .createPortal .. => some .portal
  | .retrieveSubscription _ | .retrievePrice _ | .listCustomers _ | .createCustomer .. | .openEvent .. => none

def ProviderRequest.seeksCustomer : ProviderRequest → Bool
  | .listCustomers _ | .createCustomer .. => true
  | .retrieveSubscription _ | .retrievePrice _ | .createCheckout _ | .createPortal .. | .openEvent .. => false

theorem ProviderRequest.seeksCustomer_of_opens {request : ProviderRequest} {kind : SessionKind}
    (opens : request.opens = some kind) : request.seeksCustomer = false := by
  cases request with
  | createCheckout | createPortal => rfl
  | _ => cases opens

/-- Whether the sessions that a provider opens can be shown and told apart: each comes with a text that is not empty as
its id, and with a text as its page. -/
def Provider.NamesSessions (provider : Provider) : Prop :=
  ∀ served request answer, request.opens.isSome → provider.answer served request = .ok answer →
    ∃ id url, id ≠ "" ∧ ProviderClient.sessionOf answer = .ok ⟨.text id, .text url⟩

namespace Trace

/-- Whether nothing is sold so far: no session was opened and no activation waits. Nor was a customer sought, if somebody
pays already. -/
structure Unsold (trace : Trace) (payer : Prop) : Prop where
  unopened : ∀ request ∈ trace.answered, request.opens = none
  unscheduled : trace.scheduled = []
  unsought : payer → ∀ request ∈ trace.sent, request.seeksCustomer = false

namespace Unsold

variable {trace asked : Trace} {payer : Prop} {request : ProviderRequest}

theorem empty (payer : Prop) : Trace.empty.Unsold payer := ⟨nofun, rfl, nofun⟩

theorem asking (unsold : trace.Unsold payer) (seeks : payer → request.seeksCustomer = false) :
    (trace.asking request).Unsold payer where
  unopened := unsold.unopened
  unscheduled := unsold.unscheduled
  unsought pays := List.forall_mem_append.mpr ⟨unsold.unsought pays, List.forall_mem_singleton.mpr (seeks pays)⟩

theorem hearing (unsold : trace.Unsold payer) (seeks : payer → request.seeksCustomer = false)
    (opens : request.opens = none) : (trace.hearing request).Unsold payer where
  unopened := List.forall_mem_append.mpr ⟨unsold.unopened, List.forall_mem_singleton.mpr opens⟩
  unscheduled := unsold.unscheduled
  unsought := (unsold.asking seeks).unsought

theorem pricing (unsold : trace.Unsold payer) (priceId : Value) : (trace.hearing (.retrievePrice priceId)).Unsold payer :=
  unsold.hearing (fun _ => rfl) rfl

theorem of_asked (unsold : trace.Unsold payer) (seeks : payer → request.seeksCustomer = false)
    (which : asked = trace ∨ asked = trace.asking request) : asked.Unsold payer := by
  rcases which with rfl | rfl
  · exact unsold
  · exact unsold.asking seeks

end Unsold

end Trace

/-- Whether a run stopped before anything was sold. That it did not stop at a session that was opened already is up to
the provider. -/
def Service.Stopped (after origin : Service) (store : MemoryStore) (payer : Prop) : Prop :=
  ∃ trace, after.Traced origin store trace ∧ (origin.provider.NamesSessions → trace.Unsold payer)

theorem Service.Traced.stopped {after origin : Service} {store : MemoryStore} {trace : Trace} {payer : Prop}
    (traced : after.Traced origin store trace) (unsold : trace.Unsold payer) : after.Stopped origin store payer :=
  ⟨trace, traced, fun _ => unsold⟩

namespace MemoryStore

/-- How the customer that pays for a request is come by, and the store afterwards. -/
inductive Paying (store : MemoryStore) : Option User → Value → MemoryStore → Prop where
  | own (user : User) {customerId : Value} (holds : user.customer? = some customerId) :
      Paying store (some user) customerId store
  | unnamed (user : Option User) : Paying store user .null store
  | guest (customer : String) : Paying store none (.text customer) store
  | adopted (user : User) (lacks : user.customer? = none) (customer : String) :
      Paying store (some user) (.text customer) (store.assignCustomer user.id (.text customer)).2

theorem assignCustomer_users (store : MemoryStore) {user : User} (found : store.users.get? user.id = some user)
    (customerId : Value) : (store.assignCustomer user.id customerId).2.users =
      store.users.insert user.id { user with customerId := customerId } := by
  unfold assignCustomer
  rw [found]

theorem assignCustomer_entitlements (store : MemoryStore) (userId : String) (customerId : Value) :
    (store.assignCustomer userId customerId).2.entitlements = store.entitlements := by
  unfold assignCustomer
  split <;> rfl

theorem Paying.entitlements {store left : MemoryStore} {user : Option User} {customerId : Value}
    (paying : store.Paying user customerId left) : left.entitlements = store.entitlements := by
  cases paying with
  | adopted user lacks customer => exact store.assignCustomer_entitlements user.id (.text customer)
  | _ => rfl

def Subscribed (store : MemoryStore) (now : DateTime) (userId : String) : Prop :=
  ∃ held, store.entitlements.get? userId = some held ∧ now.before held.expiresAt = .ok true ∧
    held.cancelAtPeriodEnd = false

def HasPayer (store : MemoryStore) (userId email : Value) : Prop :=
  ∃ user customerId, store.requester userId email = .ok (some user) ∧ user.customer? = some customerId

theorem not_hasPayer {store : MemoryStore} {userId email : Value} {user : Option User}
    (known : store.requester userId email = .ok user) (lacks : user.bind User.customer? = none) :
    ¬ store.HasPayer userId email := by
  rintro ⟨found, customerId, knownToo, pays⟩
  cases known.symm.trans knownToo
  cases lacks.symm.trans pays

end MemoryStore

/-- Whether the last thing that was asked of the provider on the way is to open the portal for a customer. -/
def Service.Opened (origin after : Service) (customerId : Value) : Prop :=
  ∃ asked returnUrl, origin.journal.requests <+: asked ∧
    after.journal.requests = asked ++ [.createPortal customerId returnUrl]

namespace Checkout

def parties (userId email : Value) : Action (Option User × Value) := do
  let user ← resolveUser userId email
  let customerId ← resolveCustomer user userId email
  return (user, customerId)

def requestFacts (priceId email userId : Value) : Fields :=
  [("price_id", priceId), ("user_ref", userId.orElse (email.orElse (.text "guest")))]

def openFor (priceId email userId : Value) (user : Option User) (customerId : Value) : Action SessionResult := do
  if !customerId.truthy then refuse .customerUnresolved
  match user, ← isSubscribed user with
  | some user, true => openPortal user customerId (requestFacts priceId email userId)
  | user, _ => openCheckout priceId customerId email (referenceOf user userId) (requestFacts priceId email userId)

theorem start_eq (priceId email userId : Value) :
    start priceId email userId = (do
      log (.of .info "billing_session_requested" (requestFacts priceId email userId))
      let (user, customerId) ← parties userId email
      openFor priceId email userId user customerId) := by
  unfold start parties openFor
  simp only [bind_assoc, pure_bind]
  rfl

variable {service origin : Service} {store : MemoryStore} {trace : Trace} {payer : Prop}

theorem resolveUser_ends (userId email : Value) (traced : service.Traced origin store trace) :
    (resolveUser userId email).Ends service
      (fun found after => store.requester userId email = .ok found ∧ after.Traced origin store trace)
      fun _ after => after.Traced origin store trace := by
  have byEmail : ∀ {between : Service}, between.Traced origin store trace →
      (if email.truthy then Action.perform (.findUserByEmail email) else Pure.pure none : Action (Option User)).Ends
        between (fun found after => (Except.ok
          (if email.truthy then store.users.values.find? fun user => email.isText? user.email else none) :
            Outcome (Option User)) = .ok found ∧ after.Traced origin store trace)
        fun _ after => after.Traced origin store trace := by
    intro between there
    split
    next => exact there.look rfl (fun _ _ outcome here => ⟨outcome, here⟩) fun _ _ here => here
    next => exact .pure ⟨rfl, there⟩
  unfold resolveUser MemoryStore.requester
  dsimp only
  split
  next =>
    refine .bind (traced.look rfl (fun found after outcome there => ?_) fun _ _ there => there)
    have outcome : store.findUser .null userId = .ok found := outcome
    rw [outcome]
    cases found with
    | some user => exact .pure ⟨rfl, there⟩
    | none => exact byEmail there
  next =>
    rw [pure_bind]
    exact byEmail traced

theorem adopt_ends (user : Option User) (customer : String) (traced : service.Traced origin store trace)
    (lacks : user.bind User.customer? = none) :
    (adopt user customer).Ends service
      (fun _ after => ∃ left, store.Paying user (.text customer) left ∧ after.Traced origin left trace)
      fun _ after => after.Traced origin store trace := by
  unfold adopt
  cases user with
  | none => exact .pure ⟨store, .guest customer, traced⟩
  | some user =>
    refine .bind (traced.call (fun _ after _ there => .pure ⟨_, .adopted user lacks customer, there⟩)
      (fun _ _ there => there) ?_)
    rintro failure after ⟨⟩

theorem resolveCustomer_ends {user : Option User} {userId email : Value}
    (known : store.requester userId email = .ok user) (traced : service.Traced origin store trace)
    (unsold : trace.Unsold (store.HasPayer userId email)) :
    (resolveCustomer user userId email).Ends service
      (fun customerId after => ∃ left sought, store.Paying user customerId left ∧ after.Traced origin left sought ∧
        sought.Unsold (store.HasPayer userId email))
      fun _ after => after.Stopped origin store (store.HasPayer userId email) := by
  unfold resolveCustomer
  split
  next customerId own =>
    obtain ⟨found, rfl, holds⟩ := Option.bind_eq_some_iff.mp own
    exact .pure ⟨store, trace, .own found holds, traced, unsold⟩
  next => exact .pure ⟨store, trace, .unnamed user, traced, unsold⟩
  next lacks _ =>
    have seeks : ∀ request : ProviderRequest, store.HasPayer userId email → request.seeksCustomer = false :=
      fun request pays => absurd pays (MemoryStore.not_hasPayer known lacks)
    have adopts : ∀ {between : Service} {sought : Trace} (customer : String), between.Traced origin store sought →
        sought.Unsold (store.HasPayer userId email) →
        (adopt user customer >>= fun _ => Pure.pure (Value.text customer)).Ends between
          (fun customerId after => ∃ left sought, store.Paying user customerId left ∧ after.Traced origin left sought ∧
            sought.Unsold (store.HasPayer userId email))
          fun _ after => after.Stopped origin store (store.HasPayer userId email) := by
      intro between sought customer there unsold
      refine .bind (((adopt_ends user customer there lacks).returning ?_).raising fun _ _ there => there.stopped unsold)
      rintro _ after ⟨left, paying, there⟩
      exact .pure ⟨left, sought, paying, there, unsold⟩
    refine .bind (.bind (traced.ask (fun answer after _ there => ?_) fun _ _ _ which there =>
      there.stopped (unsold.of_asked (seeks _) which)))
    have unsold := unsold.hearing (seeks (.listCustomers email)) rfl
    refine .lift (fun customers _ => ?_) fun _ _ => there.stopped unsold
    cases customers with
    | cons existing rest => exact adopts existing there unsold
    | nil =>
      refine .bind (.bind (there.askOrRefuse (fun answer after _ here => ?_) fun _ _ _ which here =>
        here.stopped (unsold.of_asked (seeks _) which)))
      refine .bind (.lift (fun id _ => .pure ?_) fun _ _ => here.stopped (unsold.hearing (seeks _) rfl))
      exact adopts _ here (unsold.hearing (seeks _) rfl)

theorem parties_ends (userId email : Value) (traced : service.Traced origin store .empty) :
    (parties userId email).Ends service
      (fun found after => store.requester userId email = .ok found.1 ∧ ∃ left sought,
        store.Paying found.1 found.2 left ∧ after.Traced origin left sought ∧
        sought.Unsold (store.HasPayer userId email))
      fun _ after => after.Stopped origin store (store.HasPayer userId email) := by
  have unsold := Trace.Unsold.empty (store.HasPayer userId email)
  refine .bind (((resolveUser_ends userId email traced).returning fun user between ⟨known, there⟩ => ?_).raising
    fun _ _ there => there.stopped unsold)
  exact .bind ((resolveCustomer_ends known there unsold).returning fun customerId after paying => .pure ⟨known, paying⟩)

theorem isSubscribed_ends (user : Option User) (traced : service.Traced origin store trace) :
    (isSubscribed user).Ends service
      (fun subscribed after => after.Traced origin store trace ∧
        (subscribed = true ↔ ∃ found, user = some found ∧ store.Subscribed origin.now found.id))
      fun _ after => after.Traced origin store trace := by
  unfold isSubscribed
  cases user with
  | none => exact .pure ⟨traced, by simp⟩
  | some user =>
    refine .bind (traced.look rfl (fun found between outcome there => ?_) fun _ _ there => there)
    have outcome : store.entitlements.get? user.id = found := Except.ok.inj outcome
    cases found with
    | none => exact .pure ⟨there, by simp [MemoryStore.Subscribed, outcome]⟩
    | some held =>
      refine .bind (.now (.bind (.lift (fun current ordered => ?_) fun _ _ => there)))
      rw [there.beside.clock] at ordered
      exact .pure ⟨there, by simp [MemoryStore.Subscribed, outcome, ordered]⟩

theorem kind_of_present {kind : SessionKind} {answered : ProviderSession} {session : SessionResult}
    (shown : present kind answered = .ok session) : session.kind = kind := by
  unfold present at shown
  generalize Checked.within (.field "url") _ = url at shown
  generalize Checked.within (.field "session_id") _ = id at shown
  cases url <;> cases id <;> cases shown
  rfl

theorem present_texts (kind : SessionKind) (id url : String) :
    present kind ⟨.text id, .text url⟩ = .ok ⟨some url, kind, some id⟩ := rfl

def Offers (origin : Service) (trace : Trace) (request : ProviderRequest) (offer : ProviderSession) : Prop :=
  ∃ answer, origin.provider.answer (origin.provider.served ++ trace.answered) request = .ok answer ∧
    ProviderClient.sessionOf answer = .ok offer

theorem Offers.named {request : ProviderRequest} {kind : SessionKind} {offer : ProviderSession}
    (offers : Offers origin trace request offer) (opens : request.opens = some kind)
    (names : origin.provider.NamesSessions) : ∃ id url, id ≠ "" ∧ offer = ⟨.text id, .text url⟩ := by
  obtain ⟨answer, answered, parsed⟩ := offers
  obtain ⟨id, url, filled, parsedToo⟩ := names _ _ _ (Option.isSome_of_mem opens) answered
  exact ⟨id, url, filled, Except.ok.inj (parsed.symm.trans parsedToo)⟩

structure Offered (origin : Service) (trace : Trace) (request : ProviderRequest) (offer : ProviderSession)
    (session : SessionResult) : Prop where
  opens : request.opens = some session.kind
  offers : Offers origin trace request offer
  shown : present session.kind offer = .ok session

section Offer

variable {request : ProviderRequest} {kind : SessionKind}

theorem offer_ends (opens : request.opens = some kind) (traced : service.Traced origin store trace)
    (unsold : trace.Unsold payer) {event : String} {fields : Fields} {error : String → BillingError} :
    (ProviderClient.askOrRefuse request event fields error >>= fun answer =>
      Action.lift (ProviderClient.sessionOf answer)).Ends service
      (fun offer after => after.Traced origin store (trace.hearing request) ∧ Offers origin trace request offer)
      fun _ after => after.Stopped origin store payer := by
  have seeks : payer → request.seeksCustomer = false := fun _ => ProviderRequest.seeksCustomer_of_opens opens
  refine .bind (traced.askOrRefuse (fun answer after answered there => ?_) fun _ _ _ which there =>
    there.stopped (unsold.of_asked seeks which))
  refine .lift (fun offer read => ⟨there, answer, answered, read⟩) fun failure unread => ?_
  refine ⟨_, there, fun names => ?_⟩
  obtain ⟨id, url, -, read⟩ := names _ _ _ (Option.isSome_of_mem opens) answered
  cases unread.symm.trans read

theorem present_ends {offer : ProviderSession} {sold : Trace} (opens : request.opens = some kind)
    (offers : Offers origin trace request offer) (there : service.Traced origin store sold) :
    (Action.lift (present kind offer)).Ends service
      (fun session after => Offered origin trace request offer session ∧ after.Traced origin store sold)
      fun _ after => after.Stopped origin store payer := by
  refine .lift (fun session shown => ?_) fun failure unshown => ⟨sold, there, fun names => ?_⟩
  · obtain rfl := kind_of_present shown
    exact ⟨⟨opens, offers, shown⟩, there⟩
  · obtain ⟨id, url, -, rfl⟩ := offers.named opens names
    cases unshown.symm.trans (present_texts kind id url)

end Offer

def passedOn (origin : Service) (offer : ProviderSession) (priceId customerId reference : Value) (trace : Trace) : Trace :=
  if origin.deployment.billing.simulationEnabled && offer.id.truthy then
    trace.awaiting ⟨offer.id, priceId, customerId, reference, origin.context⟩
  else trace

/-- How a session comes to be opened, and what has come of the run then. -/
inductive Sale (origin : Service) (priceId customerId reference : Value) (trace : Trace) (session : SessionResult) :
    Trace → Prop where
  | portal (returnUrl : Value) {offer : ProviderSession}
      (offered : Offered origin trace (.createPortal customerId returnUrl) offer session) :
      Sale origin priceId customerId reference trace session (trace.hearing (.createPortal customerId returnUrl))
  /-- A checkout is opened once the price is known. -/
  | checkout (order : CheckoutOrder) {offer : ProviderSession} {answer : Value} {price : ProviderPrice}
      (priced : origin.provider.answer (origin.provider.served ++ trace.answered) (.retrievePrice priceId) = .ok answer)
      (parsed : Payload.price answer = .ok price)
      (offered : Offered origin (trace.hearing (.retrievePrice priceId)) (.createCheckout order) offer session) :
      Sale origin priceId customerId reference trace session (passedOn origin offer priceId customerId reference
        ((trace.hearing (.retrievePrice priceId)).hearing (.createCheckout order)))

section Selling

variable (traced : service.Traced origin store trace) (unsold : trace.Unsold payer)

include traced unsold

theorem openPortal_ends (priceId reference : Value) (user : User) (customerId : Value) (bound : Fields) :
    (openPortal user customerId bound).Ends service
      (fun session after => session.kind = .portal ∧ ∃ sold,
        Sale origin priceId customerId reference trace session sold ∧ after.Traced origin store sold)
      fun _ after => after.Stopped origin store payer := by
  refine .bind (.log (.bind (.bind (.read ?_))))
  refine (offer_ends rfl (traced.logged _) unsold).returning fun offer between ⟨there, offers⟩ => ?_
  refine (present_ends rfl offers there).returning fun session after ⟨offered, here⟩ => ?_
  exact ⟨(Option.some.inj offered.opens).symm, _, .portal _ offered, here⟩

theorem checkPrice_ends (priceId : Value) (bound : Fields) :
    (checkPrice priceId bound).Ends service
      (fun _ after => after.Traced origin store (trace.hearing (.retrievePrice priceId)) ∧ ∃ answer price,
        origin.provider.answer (origin.provider.served ++ trace.answered) (.retrievePrice priceId) = .ok answer ∧
        Payload.price answer = .ok price)
      fun _ after => after.Stopped origin store payer := by
  have asked : (ProviderClient.retrievePrice priceId).Ends service
      (fun price after => after.Traced origin store (trace.hearing (.retrievePrice priceId)) ∧ ∃ answer,
        origin.provider.answer (origin.provider.served ++ trace.answered) (.retrievePrice priceId) = .ok answer ∧
        Payload.price answer = .ok price)
      fun _ after => after.Stopped origin store payer := by
    refine .bind (traced.askOrRefuse (fun answer after answered there => ?_) fun _ _ _ which there =>
      there.stopped (unsold.of_asked (fun _ => rfl) which))
    exact .lift (fun price read => ⟨there, answer, answered, read⟩) fun _ _ => there.stopped (unsold.pricing priceId)
  refine .recover (.bind ((asked.returning ?_).raising fun failure between stopped => ?_))
  · intro price after ⟨there, answer, answered, parsed⟩
    exact .pure ⟨there, answer, price, answered, parsed⟩
  · obtain ⟨missed, there, still⟩ := stopped
    cases failure with
    | billing error => exact .bind (.log (.of_error rfl ⟨missed, there.logged _, still⟩))
    | _ => exact .of_error rfl ⟨missed, there, still⟩

theorem createCheckout_ends (priceId customerId email reference : Value) :
    (ProviderClient.createCheckout priceId customerId email reference .null .null).Ends service
      (fun offer after => ∃ order, after.Traced origin store (trace.hearing (.createCheckout order)) ∧
        Offers origin trace (.createCheckout order) offer)
      fun _ after => after.Stopped origin store payer :=
  .bind (.read ((offer_ends rfl traced unsold).returning fun _ _ offers => ⟨_, offers⟩))

theorem openCheckout_ends (priceId customerId email reference : Value) (bound : Fields) :
    (openCheckout priceId customerId email reference bound).Ends service
      (fun session after => session.kind = .checkout ∧ ∃ sold,
        Sale origin priceId customerId reference trace session sold ∧ after.Traced origin store sold)
      fun _ after => after.Stopped origin store payer := by
  refine .bind ((checkPrice_ends traced unsold priceId bound).returning ?_)
  intro _ priced ⟨there, answer, price, answered, parsed⟩
  have unsold := unsold.pricing priceId
  refine .bind ((createCheckout_ends there unsold priceId customerId email reference).returning ?_)
  intro offer between ⟨order, here, offers⟩
  have shows : ∀ {left : Service},
      left.Traced origin store (passedOn origin offer priceId customerId reference
        ((trace.hearing (.retrievePrice priceId)).hearing (.createCheckout order))) →
      (Action.lift (present .checkout offer)).Ends left
        (fun session after => session.kind = .checkout ∧ ∃ sold,
          Sale origin priceId customerId reference trace session sold ∧ after.Traced origin store sold)
        fun _ after => after.Stopped origin store payer := by
    intro left arrived
    refine (present_ends rfl offers arrived).returning fun session after ⟨offered, arrived⟩ => ?_
    exact ⟨(Option.some.inj offered.opens).symm, _, .checkout order answered parsed offered, arrived⟩
  unfold passedOn at shows
  rw [← here.deployment, ← here.context] at shows
  refine .bind (.log (.bind (.read ?_)))
  dsimp only
  split
  next enabled =>
    have waits : (between.deployment.billing.simulationEnabled && offer.id.truthy) = true := enabled
    rw [if_pos waits] at shows
    exact .bind (.bind (.read (.bind (.log (.of_ok rfl (shows (((here.logged _).logged _).awaiting _)))))))
  next disabled =>
    have settled : ¬ (between.deployment.billing.simulationEnabled && offer.id.truthy) = true := disabled
    rw [if_neg settled] at shows
    exact shows (here.logged _)

theorem openFor_ends (priceId email userId : Value) (user : Option User) (customerId : Value) :
    (openFor priceId email userId user customerId).Ends service
      (fun session after => customerId.truthy = true ∧
        (session.kind = .portal ↔ ∃ found, user = some found ∧ store.Subscribed origin.now found.id) ∧ ∃ sold,
          Sale origin priceId customerId (referenceOf user userId) trace session sold ∧ after.Traced origin store sold)
      fun _ after => after.Stopped origin store payer := by
  unfold openFor
  dsimp only
  split
  next => exact .bind (.of_error rfl (traced.stopped unsold))
  next filled =>
    have filled : customerId.truthy = true := by simpa using filled
    refine .bind (((isSubscribed_ends user traced).returning fun subscribed between ⟨there, told⟩ => ?_).raising
      fun _ _ there => there.stopped unsold)
    cases subscribed with
    | true =>
      obtain ⟨found, rfl, subscribed⟩ := told.mp rfl
      refine (openPortal_ends there unsold priceId (referenceOf (some found) userId) found customerId _).returning ?_
      exact fun session after ⟨kind, sold⟩ => ⟨filled, iff_of_true kind ⟨found, rfl, subscribed⟩, sold⟩
    | false =>
      have unsubscribed := mt told.mpr Bool.false_ne_true
      have opens := openCheckout_ends there unsold priceId customerId email (referenceOf user userId)
        (requestFacts priceId email userId)
      cases user <;> exact opens.returning fun session after ⟨kind, sold⟩ =>
        ⟨filled, iff_of_false (fun portal => nomatch kind.symm.trans portal) unsubscribed, sold⟩

end Selling

structure Completed (origin : Service) (store : MemoryStore) (priceId userId email : Value) (user : Option User)
    (customerId : Value) (left : MemoryStore) (trace sold : Trace) (session : SessionResult) (after : Service) : Prop where
  known : store.requester userId email = .ok user
  paying : store.Paying user customerId left
  filled : customerId.truthy = true
  portal : session.kind = .portal ↔ ∃ found, user = some found ∧ left.Subscribed origin.now found.id
  unsold : trace.Unsold (store.HasPayer userId email)
  sale : Sale origin priceId customerId (referenceOf user userId) trace session sold
  traced : after.Traced origin left sold

def Withdrawn (store : MemoryStore) (userId email : Value) (left : MemoryStore) : Prop :=
  left = store ∨ ∃ user customerId, store.requester userId email = .ok user ∧ store.Paying user customerId left

theorem start_completes (priceId email userId : Value) (memory : service.store = .memory store) :
    (start priceId email userId).Ends service
      (fun session after => ∃ user customerId left trace sold,
        Completed service store priceId userId email user customerId left trace sold session after)
      fun _ after => ∃ left, Withdrawn store userId email left ∧
        after.Stopped service left (store.HasPayer userId email) := by
  rw [start_eq]
  refine .bind (.log (.bind (((parties_ends userId email ((Service.Traced.refl memory).logged _)).returning ?_).raising
    fun _ _ stopped => ⟨store, .inl rfl, stopped⟩)))
  intro (user, customerId) between ⟨known, left, trace, paying, there, unsold⟩
  refine ((openFor_ends there unsold priceId email userId user customerId).returning ?_).raising ?_
  · intro session after ⟨filled, portal, sold, sale, traced⟩
    exact ⟨user, customerId, left, trace, sold, known, paying, filled, portal, unsold, sale, traced⟩
  · intro failure after stopped
    exact ⟨left, .inr ⟨user, customerId, known, paying⟩, stopped⟩

structure Started (origin : Service) (store : MemoryStore) (user : Option User) (customerId : Value)
    (session : SessionResult) (left : MemoryStore) (after : Service) : Prop where
  paying : store.Paying user customerId left
  memory : after.store = .memory left
  portal : session.kind = .portal → customerId.truthy = true ∧ ∃ found, user = some found ∧
    left.Subscribed origin.now found.id ∧ origin.Opened after customerId

theorem start_ends (priceId email userId : Value) (memory : service.store = .memory store) :
    (start priceId email userId).Ends service
      (fun session after => ∃ user customerId left, store.requester userId email = .ok user ∧
        Started service store user customerId session left after)
      fun _ _ => True := by
  refine ((start_completes priceId email userId memory).returning ?_).raising fun _ _ _ => trivial
  rintro session after ⟨user, customerId, left, trace, sold, completed⟩
  refine ⟨user, customerId, left, completed.known, completed.paying, completed.traced.beside.memory, fun portal => ?_⟩
  obtain ⟨found, same, subscribed⟩ := completed.portal.mp portal
  refine ⟨completed.filled, found, same, subscribed, ?_⟩
  have sent := completed.traced.sent
  cases completed.sale with
  | portal returnUrl offered =>
    refine ⟨service.journal.requests ++ trace.sent, returnUrl, List.prefix_append _ _, ?_⟩
    rw [sent, List.append_assoc]
    rfl
  | checkout order answered parsed offered => cases offered.opens.trans (congrArg some portal)

theorem parties_scripted (userId email : Value) : Scripted true (parties userId email) := by
  have adopts : ∀ (user : Option User) (customer : String), Scripted true (adopt user customer) := by
    intro user customer
    cases user with
    | none => exact .pure _
    | some user => exact .bind (.perform _ (.inl rfl)) fun _ => .pure _
  have resolves : Scripted true (resolveUser userId email) := by
    have byEmail : Scripted true
        (if email.truthy then Action.perform (.findUserByEmail email) else Pure.pure none : Action (Option User)) := by
      split
      next => exact .perform _ (.inl rfl)
      next => exact .pure _
    unfold resolveUser
    dsimp only
    split
    next =>
      refine .bind (.perform _ (.inl rfl)) fun found => ?_
      cases found with
      | some user => exact .pure _
      | none => exact byEmail
    next =>
      rw [pure_bind]
      exact byEmail
  refine .bind resolves fun user => .bind ?_ fun customerId => .pure _
  unfold resolveCustomer
  split
  next => exact .pure _
  next => exact .pure _
  next =>
    refine .bind (.bind (.ask _) fun _ => .lift _) fun customers => ?_
    cases customers with
    | cons existing rest => exact .bind (adopts user existing) fun _ => .pure _
    | nil =>
      refine .bind (.bind (.askOrRefuse _ _ _ _) fun _ => .bind (.lift _) fun _ => .pure _) fun created => ?_
      exact .bind (adopts user created) fun _ => .pure _

theorem store_start (priceId email userId : Value) (memory : service.store = .memory store) :
    ((start priceId email userId).run service).2.store = ((parties userId email).run service).2.store := by
  rw [start_eq]
  generalize LogEntry.of .info "billing_session_requested" _ = entry
  have logging : (log entry).run service = (.ok (), service.logged entry) := rfl
  have same : (service.logged entry).core = service.core := rfl
  -- settling the parties takes the same course after the entry as without it
  obtain ⟨outcome, after, between, -, ran, ranLogged, core, -⟩ := (parties_scripted userId email).course memory same
  have settled : between.store = after.store := congrArg Core.store core
  rw [run_bind, logging, ran]
  dsimp only
  rw [run_bind, ranLogged]
  rcases outcome with failure | ⟨user, customerId⟩
  · exact settled
  · obtain ⟨-, left, trace, -, there, unsold⟩ :=
      (parties_ends userId email ((Service.Traced.refl memory).logged entry)).returned _ between ranLogged
    have ends := openFor_ends there unsold priceId email userId user customerId
    rw [← settled, there.beside.memory]
    dsimp only
    rcases opened : (openFor priceId email userId user customerId).run between with ⟨failure | session, left⟩
    · obtain ⟨_, stopped, -⟩ := ends.raised failure left opened
      exact stopped.beside.memory
    · obtain ⟨-, -, _, -, here⟩ := ends.returned session left opened
      exact here.beside.memory

end Checkout

end PaidAccess
