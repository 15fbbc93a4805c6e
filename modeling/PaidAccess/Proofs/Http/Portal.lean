import PaidAccess.Proofs.Http.Account
import PaidAccess.Proofs.Service.Customers
/-!
Who gets into the portal from the checkout. A subscriber who goes to the checkout is sent to the portal instead, where
the customer's subscriptions are managed. Whose portal that is depends on whom the store takes the request to be for:
the user of its token, but an email is enough, be it the token's or the one that the request names.
-/

namespace PaidAccess

open PaidAccess.Action

namespace MemoryStore

variable {store left : MemoryStore} {user : User} {customerId : Value}

theorem Paying.hasAlone_iff (paying : store.Paying (some user) customerId left)
    (there : store.users.get? user.id = some user) (mark : Value) :
    left.HasAlone user.id mark ↔ store.HasAlone user.id mark := by
  cases paying with
  | own user holds => exact Iff.rfl
  | unnamed => exact Iff.rfl
  | adopted user lacks customer =>
    unfold HasAlone
    rw [store.assignCustomer_users there, OrderedMap.Alone.insert_iff]

theorem requester_of_id {id : String} {account : User} {email : Value} (named : id ≠ "")
    (there : store.users.get? id = some account) : store.requester (.text id) email = .ok (some account) := by
  have known : store.findUser .null (.text id) = .ok (some account) := by
    change store.userOfId (.text id) = _
    rw [userOfId, if_pos (by simpa [Value.truthy] using named)]
    exact congrArg Except.ok there
  have filled : (Value.text id).truthy = true := by simpa [Value.truthy] using named
  unfold requester
  rw [if_pos filled, known]
  rfl

/-- Whom the store takes an order to be for, given who sent it. -/
def orderer (store : MemoryStore) (sender : Option AuthenticatedUser) (order : CheckoutRequest) :
    Outcome (Option User) :=
  store.requester (.ofText? (sender.map (·.id))) (.ofText? (orElseText (sender.bind (·.email)) order.email))

end MemoryStore

theorem Service.Opened.unique {service after : Service} {customerId other : Value}
    (opened : service.Opened after customerId) (openedToo : service.Opened after other) : customerId = other := by
  obtain ⟨asked, returnUrl, -, sent⟩ := opened
  obtain ⟨askedToo, returnUrlToo, -, sentToo⟩ := openedToo
  have same := List.append_inj_right' (sent.symm.trans sentToo) rfl
  cases same
  rfl

theorem SessionResult.kind_of_toValue {session other : SessionResult} (same : session.toValue = other.toValue) :
    session.kind = other.kind := by
  have named : session.kind.name = other.kind.name := by
    injection same with fields
    injection fields with _ fields
    injection fields with field
    injection field with _ name
    injection name
  revert named
  cases session.kind <;> cases other.kind <;> decide

namespace Http

def Request.order? (request : Request) : Option CheckoutRequest :=
  match Endpoint.body request with
  | .ok content => (CheckoutRequest.ofValue content).outcome.toOption
  | .error _ => none

/-- Whether a response sends its receiver to the portal. -/
def Response.OpensPortal (response : Response) : Prop :=
  response.status = 200 ∧ ∃ session : SessionResult, session.kind = .portal ∧ response.content = .json session.toValue

/-- Whether the portal was opened for the customer of the user who sent a request, and of nobody else. -/
def OwnPortal (service : Service) (request : Request) (after : Service) : Prop :=
  ∃ sender left account customerId, service.sender? request = some sender ∧ after.store = .memory left ∧
    left.users.get? sender.id = some account ∧ account.customer? = some customerId ∧ left.HasAlone sender.id customerId ∧
    service.Opened after customerId

namespace Endpoint

open Handling

variable {request : Request} {service after : Service}

theorem eq_of_readBody {α : Type} {read : Value → Checked α} {content : Value} {value : α}
    (settled : (readBody read content).settle.run service = (.ok (.ok value), after)) :
    read content = .valid value ∧ after = service := by
  have objects : ∀ issues, (objectTo content issues : Handling α).settle.run service ≠ (.ok (.ok value), after) := by
    intro issues same
    unfold objectTo at same
    split at same <;> cases same
  unfold readBody at settled
  split at settled
  next => exact absurd settled (objects _)
  next fields =>
    split at settled
    next reads =>
      cases settled
      exact ⟨reads, rfl⟩
    next => exact absurd settled (objects _)
  next => exact absurd settled (objects _)

theorem started_of_startCheckout {response : Response}
    (settled : (startCheckout request).settle.run service = (.ok (.ok response), after)) :
    ∃ order price session, request.order? = some order ∧ response = .ofValue 200 session.toValue ∧
      (Checkout.start (.text price) (.ofText? (orElseText ((service.sender? request).bind (·.email)) order.email))
        (.ofText? ((service.sender? request).map (·.id)))).run service = (.ok session, after) := by
  obtain ⟨content, _, decides, signing⟩ := ok_of_bind settled
  obtain ⟨bodied, rfl⟩ := ok_of_decided decides
  obtain ⟨sender, _, signed, reading⟩ := ok_of_bind signing
  obtain ⟨known, rfl⟩ := Bearer.eq_of_userOrGuest signed
  obtain ⟨order, _, readIn, demanding⟩ := ok_of_bind reading
  obtain ⟨valid, rfl⟩ := eq_of_readBody readIn
  obtain ⟨_, _, billing, insisting⟩ := ok_of_bind demanding
  obtain ⟨-, rfl⟩ := ok_of_demand billing
  obtain ⟨_, _, provider, pricing⟩ := ok_of_bind insisting
  obtain ⟨-, rfl⟩ := ok_of_demand provider
  obtain ⟨config, _, configured, starting⟩ := ok_of_bind pricing
  cases ok_of_act configured
  split at starting
  next => cases ok_of_act starting
  next price priced =>
    obtain ⟨session, left, started, answered⟩ := ok_of_bind starting
    cases answered
    have ordered : request.order? = some order := by
      unfold Request.order?
      rw [bodied]
      dsimp only
      rw [valid]
      rfl
    rw [known]
    exact ⟨order, price, session, ordered, rfl, ok_of_act started⟩

end Endpoint

open Server

/-- What becomes of a request for a checkout that is answered with the portal. -/
structure SentToPortal (service : Service) (store : MemoryStore) (request : Request) (order : CheckoutRequest)
    (user : User) (customerId : Value) (left : MemoryStore) (after : Service) : Prop where
  ordered : request.order? = some order
  known : store.orderer (service.sender? request) order = .ok (some user)
  paying : store.Paying (some user) customerId left
  filled : customerId.truthy = true
  memory : after.store = .memory left
  subscribed : store.Subscribed service.now user.id
  opened : service.Opened after customerId

theorem exists_sentToPortal {freshId : String} {request : Request} {service after : Service} {store : MemoryStore}
    {response : Response} (resolved : Endpoint.resolve request.method request.path = .ok .checkout)
    (memory : service.store = .memory store) (served : (serve freshId request).run service = (.ok response, after))
    (opens : response.OpensPortal) :
    ∃ order user customerId left, SentToPortal service store request order user customerId left after := by
  obtain ⟨asks, full⟩ := Endpoint.method_of_served resolved
  obtain ⟨succeeded, session, portal, content⟩ := opens
  rcases routed : (route request).settle.run (entered freshId request service) with ⟨settled, left⟩
  rw [run_serve freshId asks full routed] at served
  cases served
  obtain ⟨status, same⟩ := reply_eq freshId service.deployment.origins request settled
  -- nothing that is refused or fails has this status, so the endpoint returned the response
  have returned := eq_of_shown_status (status.symm.trans succeeded)
  rw [settle_route resolved, returned] at routed
  obtain ⟨order, price, other, ordered, shows, started⟩ := Endpoint.started_of_startCheckout routed
  rw [same, shows] at content
  have kind : other.kind = .portal := (SessionResult.kind_of_toValue (Content.json.inj content)).trans portal
  have memoryToo : (entered freshId request service).store = .memory store := memory
  obtain ⟨found, customerId, between, known, paying, stays, portal⟩ :=
    (Checkout.start_ends _ _ _ memoryToo).returned other left started
  obtain ⟨filled, user, rfl, subscribed, opened⟩ := portal kind
  refine ⟨order, user, customerId, between, ordered, known, paying, filled, ?_, ?_, ?_⟩
  · rw [returned]
    exact stays
  · unfold MemoryStore.Subscribed at subscribed ⊢
    rw [← paying.entitlements]
    exact subscribed
  · rw [returned]
    exact opened

/-- When a request for a checkout is answered with the portal, the store takes it to be for a subscriber. It is the
sender's own portal exactly if the sender is that subscriber and nobody else had the customer that the portal is opened
for. A sender who has an account is. -/
theorem portal_own_iff {freshId : String} {request : Request} {service after : Service} {store : MemoryStore}
    {response : Response} (resolved : Endpoint.resolve request.method request.path = .ok .checkout)
    (memory : service.store = .memory store) (keyed : store.Keyed)
    (served : (serve freshId request).run service = (.ok response, after)) (opens : response.OpensPortal) :
    ∃ order user, request.order? = some order ∧ store.orderer (service.sender? request) order = .ok (some user) ∧
      store.Subscribed service.now user.id ∧
      (OwnPortal service request after ↔ (∃ sender, service.sender? request = some sender ∧ sender.id = user.id) ∧
        ∀ customerId, service.Opened after customerId → store.HasAlone user.id customerId) ∧
      ∀ sender account, service.sender? request = some sender → sender.id ≠ "" →
        store.users.get? sender.id = some account → user = account := by
  obtain ⟨order, user, customerId, left, sent⟩ := exists_sentToPortal resolved memory served opens
  have there : store.users.get? user.id = some user := MemoryStore.get?_of_requester keyed sent.known
  obtain ⟨account, here, pays⟩ := sent.paying.account there sent.filled
  refine ⟨order, user, sent.ordered, sent.known, sent.subscribed, ⟨?_, ?_⟩, ?_⟩
  · rintro ⟨sender, stored, found, other, signed, kept, _, _, alone, opened⟩
    cases sent.memory.symm.trans kept
    cases sent.opened.unique opened
    -- the subscriber has the customer, too, so nobody but the sender can be the subscriber
    have same : user.id = sender.id := alone user.id account here pays
    refine ⟨⟨sender, signed, same.symm⟩, fun customer openedToo => ?_⟩
    rw [← opened.unique openedToo, ← sent.paying.hasAlone_iff there, same]
    exact alone
  · rintro ⟨⟨sender, signed, same⟩, alone⟩
    refine ⟨sender, left, account, customerId, signed, sent.memory, ?_, pays, ?_, sent.opened⟩
    · rw [same]
      exact here
    · rw [same, sent.paying.hasAlone_iff there]
      exact alone customerId sent.opened
  · intro sender owner signed named found
    have known := sent.known
    rw [signed] at known
    have byId : store.orderer (some sender) order = .ok (some owner) := MemoryStore.requester_of_id named found
    cases known.symm.trans byId
    rfl

theorem exists_opensPortal {request : Request} {service : Service} {session : SessionResult} (freshId : String)
    (resolved : Endpoint.resolve request.method request.path = .ok .checkout)
    (returned : ((route request).settle.run (entered freshId request service)).1 =
      .ok (.ok (.ofValue 200 session.toValue)))
    (portal : session.kind = .portal) (standard : Json.isStandard session.toValue = true) :
    ∃ response after, (serve freshId request).run service = (.ok response, after) ∧ response.OpensPortal := by
  obtain ⟨asks, full⟩ := Endpoint.method_of_served resolved
  rcases routed : (route request).settle.run (entered freshId request service) with ⟨settled, left⟩
  rw [routed] at returned
  cases returned
  obtain ⟨status, content⟩ := reply_eq freshId service.deployment.origins request
    (.ok (.ok (.ofValue 200 session.toValue)))
  have shows : shown (.ok (.ok (.ofValue 200 session.toValue))) = .ofValue 200 session.toValue := if_pos standard
  rw [shows] at status content
  exact ⟨_, _, run_serve freshId asks full routed, status, session, portal, content⟩

end Http

namespace Sample

def member : User := { user with email := some "u1@x.test" }

def members : MemoryStore := (store.addUser member).addEntitlement holder

def front : Service :=
  { desk with
    store := .memory members
    deployment := { desk.deployment with
      provider := { desk.deployment.provider with artistMonthly := "price_1" }
      available := { desk.deployment.available with billing := true, provider := true } } }

def orderWith (headers : List Http.Header) : Http.Request where
  method := "POST"
  path := "/api/v1/billing/checkout"
  headers := ("content-type", "application/json") :: headers
  body := "\x7b\"plan_key\":\"artist_monthly\",\"email\":\"u1@x.test\"\x7d"

def memberOrder : Http.Request := orderWith [("authorization", "Bearer t1")]

def guestOrder : Http.Request := orderWith []

def portalSession : SessionResult := ⟨some "https://billing.test/bps_1", .portal, some "bps_1"⟩

theorem portalSession_standard : Json.isStandard portalSession.toValue = true := by
  have whole : ∀ text ∈ ["url", "https://billing.test/bps_1", "type", "portal", "session_id", "bps_1"],
      Surrogate.isWhole text = true :=
    fun text listed => Bool.or_eq_true_iff.mpr (.inr (by revert text; decide))
  simp only [List.forall_mem_cons] at whole
  simp [portalSession, SessionResult.toValue, SessionKind.name, Value.ofText?, Value.ofOption, Json.isStandard,
    Json.haveStandard, whole]

theorem members_keyed : members.Keyed := (store_keyed.addUser member).addEntitlement holder

theorem eq_member {key : String} {account : User} (found : members.users.get? key = some account) : account = member := by
  have listed : (key, account) ∈ [("u1", member)] := OrderedMap.mem_of_get? found
  cases List.mem_singleton.mp listed
  rfl

end Sample

namespace Http

open Server

deriving instance DecidableEq for Content, Response

theorem front_returns : ∀ request ∈ [Sample.memberOrder, Sample.guestOrder],
    ((route request).settle.run (entered "r1" request Sample.front)).1 =
      .ok (.ok (.ofValue 200 Sample.portalSession.toValue)) := by
  have told : ∀ request ∈ [Sample.memberOrder, Sample.guestOrder],
      (((route request).settle.run (entered "r1" request Sample.front)).1.toOption.bind (·.toOption)) =
        some (.ofValue 200 Sample.portalSession.toValue) := by
    decide +kernel
  intro request listed
  obtain ⟨settled, ended, returned⟩ := Option.bind_eq_some_iff.mp (told request listed)
  rw [Outcome.eq_ok_of_toOption ended]
  cases settled with
  | error refusal => cases returned
  | ok response => rw [Option.some.inj returned]

/-- A subscriber who brings her token is sent to her own portal. -/
theorem portal_own_of_member :
    ∃ response after, (serve "r1" Sample.memberOrder).run Sample.front = (.ok response, after) ∧ response.OpensPortal ∧
      OwnPortal Sample.front Sample.memberOrder after := by
  have addressed : Endpoint.resolve Sample.memberOrder.method Sample.memberOrder.path = .ok .checkout := rfl
  have signed : Sample.front.sender? Sample.memberOrder = some ⟨"u1", none⟩ := by decide +kernel
  obtain ⟨response, after, served, opens⟩ := exists_opensPortal "r1" addressed
    (front_returns Sample.memberOrder (by simp)) rfl Sample.portalSession_standard
  obtain ⟨_, user, -, -, -, own, account⟩ := portal_own_iff addressed rfl Sample.members_keyed served opens
  obtain rfl : user = Sample.member := account _ Sample.member signed (by decide) rfl
  refine ⟨response, after, served, opens, own.mpr ⟨⟨_, signed, rfl⟩, fun customerId _ => ?_⟩⟩
  intro other held found _
  rw [← Sample.members_keyed.users.name_eq found, Sample.eq_member found]

/-- So is everybody else who knows her email. -/
theorem portal_of_member_by_guest :
    Sample.front.sender? Sample.guestOrder = none ∧
      ∃ response after, (serve "r1" Sample.guestOrder).run Sample.front = (.ok response, after) ∧
        response.OpensPortal ∧ Sample.front.Opened after (.text "cus_1") ∧
        ¬ OwnPortal Sample.front Sample.guestOrder after := by
  have addressed : Endpoint.resolve Sample.guestOrder.method Sample.guestOrder.path = .ok .checkout := rfl
  have nobody : Sample.front.sender? Sample.guestOrder = none := by decide +kernel
  obtain ⟨response, after, served, opens⟩ := exists_opensPortal "r1" addressed
    (front_returns Sample.guestOrder (by simp)) rfl Sample.portalSession_standard
  obtain ⟨order, user, customerId, left, sent⟩ := exists_sentToPortal addressed rfl served opens
  obtain rfl : user = Sample.member :=
    Sample.eq_member (MemoryStore.get?_of_requester Sample.members_keyed sent.known)
  have paid : customerId = .text "cus_1" := by
    cases sent.paying with
    | own user holds => cases holds; rfl
    | unnamed => cases sent.filled
    | adopted user lacks customer => cases lacks
  refine ⟨nobody, response, after, served, opens, paid ▸ sent.opened, ?_⟩
  rintro ⟨sender, _, _, _, signed, -⟩
  cases nobody.symm.trans signed

end Http

end PaidAccess
