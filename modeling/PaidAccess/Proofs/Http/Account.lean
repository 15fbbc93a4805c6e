import PaidAccess.Proofs.Http.Sender
import PaidAccess.Proofs.Service.Sample
import PaidAccess.Proofs.Service.Twins
/-!
The endpoints of an account: its portal, its subscription and its credits. They are closed to requests whose sender is
not known, and what they answer to a known one is decided by what belongs to that user.
-/

namespace PaidAccess

open Http Handling

namespace Storeless

variable {α β : Type}

theorem settle_bind {handling : Handling α} {next : α → Handling β} (first : Storeless handling.settle)
    (rest : ∀ value, Storeless (next value).settle) : Storeless (handling >>= next).settle := by
  intro service store
  rw [Handling.settle_bind, Handling.settle_bind, first service store]
  rcases handling.settle.run service with ⟨failure | refusal | value, between⟩
  · rfl
  · rfl
  · exact rest value between store

theorem decided (result : Except Refusal α) : Storeless (Handling.decided result).settle := fun _ _ => rfl

theorem act {action : Action α} (storeless : Storeless action) : Storeless (Handling.act action).settle :=
  .bind storeless fun _ _ _ => rfl

theorem demand (part : Part) : Storeless (Handling.demand part).settle := by
  refine .settle_bind (act fun _ _ => rfl) fun available => ?_
  split
  next => exact decided _
  next => exact fun _ _ => rfl

theorem verify (token : String) : Storeless (Identity.verify token) := by
  refine .bind (fun _ _ => rfl) fun found => ?_
  cases found.getD .refused with
  | user id email => exact .bind (.lift _) fun _ _ _ => rfl
  | _ => exact fun _ _ => rfl

theorem user (request : Request) : Storeless (Bearer.user request).settle := by
  unfold Bearer.user
  cases Bearer.ofRequest? request with
  | none => exact decided _
  | some token =>
    refine .settle_bind (demand _) fun _ => .settle_bind (act (verify token)) fun found => ?_
    cases found with
    | some user => exact fun _ _ => rfl
    | none => exact decided _

theorem readBody (read : Value → Checked α) (content : Value) : Storeless (Endpoint.readBody read content).settle := by
  have objects : ∀ issues, Storeless (Endpoint.objectTo content issues : Handling α).settle := by
    intro issues
    unfold Endpoint.objectTo
    split
    next => exact decided _
    next => exact act (.fail _)
  cases content with
  | null => exact objects _
  | record fields =>
    unfold Endpoint.readBody
    dsimp only
    cases read (.record fields) with
    | valid value => exact fun _ _ => rfl
    | faulty issues => exact objects issues
  | _ => exact objects _

end Storeless

namespace Alike

variable {α β : Type} {related : MemoryStore → MemoryStore → Prop}

theorem settle_bind {handling : Handling α} {next : α → Handling β}
    (first : Alike related handling.settle fun _ => True) (rest : ∀ value, Alike related (next value).settle fun _ => True) :
    Alike related (handling >>= next).settle fun _ => True :=
  .bind first fun settled _ => match settled with
    | .ok value => rest value
    | .error _ => .pure trivial

theorem act {action : Action α} (alike : Alike related action fun _ => True) :
    Alike related (Handling.act action).settle fun _ => True :=
  .bind alike fun _ _ => .pure trivial

theorem served {action : Action α} (part : Part) (present : α → Response) (alike : Alike related action fun _ => True) :
    Alike related (do
      Handling.demand part
      let value ← Handling.act action
      return present value : Handling Response).settle fun _ => True :=
  .settle_bind (.of_storeless (.demand part)) fun _ => .settle_bind (.act alike) fun _ => .pure trivial

end Alike

namespace Http

open Server

/-- Whether one service is left of another one that neither asked the provider nor queried a store. -/
structure Unasked (before after : Service) : Prop where
  requests : after.journal.requests = before.journal.requests
  queries : after.journal.queries = before.journal.queries
  provider : after.provider = before.provider

theorem Unasked.foldl_logged (service : Service) (entries : List LogEntry) :
    Unasked service (entries.foldl Service.logged service) :=
  ⟨(service.journal_foldl_logged entries).1, (service.journal_foldl_logged entries).2,
    congrArg Core.provider (service.core_foldl_logged entries)⟩

theorem Unasked.closed {freshId : String} {request : Request} {service left : Service}
    {result : Outcome (Except Refusal Response)} (unasked : Unasked (entered freshId request service) left) :
    Unasked service (closed request result left) := by
  obtain ⟨requests, queries, provider⟩ := unasked
  unfold Server.closed noted
  split <;> exact ⟨requests, queries, provider⟩

theorem closed_holding (request : Request) (result : Outcome (Except Refusal Response)) (left : Service)
    (store : Store) : closed request result (left.holding store) = (closed request result left).holding store := by
  unfold closed noted
  split <;> rfl

theorem memory?_serve (freshId : String) {request : Request} (asks : request.method ≠ "OPTIONS")
    (full : request.method ≠ "HEAD") (service : Service) :
    ((serve freshId request).run service).2.memory? =
      ((route request).settle.run (entered freshId request service)).2.memory? := by
  rcases routed : (route request).settle.run (entered freshId request service) with ⟨result, left⟩
  rw [run_serve freshId asks full routed]
  unfold closed noted
  dsimp only
  split <;> rfl

namespace Endpoint

variable {service : Service} {request : Request}

def isAccount : Endpoint → Bool
  | .portal | .subscription | .consume => true
  | .root | .health | .checkout | .webhook => false

theorem settle_of_nobody (unknown : service.sender? request = none) (next : AuthenticatedUser → Handling Response) :
    ∃ settled left, TurnedDown settled ∧ Unasked service left ∧ ∀ store,
      (Bearer.user request >>= next).settle.run (service.holding store) = (settled, left.holding store) := by
  have signed := Bearer.user_settles request service
  have anywhere := Storeless.user request service
  rw [unknown] at signed
  generalize (Bearer.user request).settle.run service = result at signed anywhere
  cases signed with
  | known user stands => cases stands
  | nobody _ turned entries =>
    cases turned with
    | refused refusal grave =>
      refine ⟨_, _, .refused refusal grave, .foldl_logged service entries, fun store => ?_⟩
      rw [settle_bind, anywhere store]
    | failed failure =>
      refine ⟨_, _, .failed failure, .foldl_logged service entries, fun store => ?_⟩
      rw [settle_bind, anywhere store]

theorem settle_of_sender {user : AuthenticatedUser} (known : service.sender? request = some user)
    (next : AuthenticatedUser → Handling Response) :
    (Bearer.user request >>= next).settle.run service = (next user).settle.run service := by
  have signed := Bearer.user_settles request service
  rw [settle_bind]
  rw [known] at signed
  generalize (Bearer.user request).settle.run service = result at signed
  cases signed with
  | known other same =>
    cases same
    rfl
  | nobody unknown => cases unknown

theorem turnedDown_of_body {refusal : Refusal} (refused : body request = .error refusal) :
    TurnedDown (.ok (.error refusal) : Outcome (Except Refusal Response)) := by
  unfold body at refused
  split at refused
  next => cases refused
  next =>
    cases refused
    exact .refused _ (by decide)
  next =>
    cases refused
    exact .refused _ (by decide)

theorem serve_of_nobody {endpoint : Endpoint} (account : endpoint.isAccount = true)
    (unknown : service.sender? request = none) :
    ∃ settled left, TurnedDown settled ∧ Unasked service left ∧ ∀ store,
      (endpoint.serve request).settle.run (service.holding store) = (settled, left.holding store) := by
  cases endpoint with
  | portal => exact settle_of_nobody unknown _
  | subscription => exact settle_of_nobody unknown _
  | consume =>
    unfold serve spendCredits
    cases read : body request with
    | error refusal =>
      exact ⟨_, service, turnedDown_of_body read, .foldl_logged service [], fun store => rfl⟩
    | ok content => simpa only [settle_decided] using settle_of_nobody unknown _
  | _ => cases account

theorem serve_of_sender {endpoint : Endpoint} (account : endpoint.isAccount = true) {user : AuthenticatedUser}
    (known : service.sender? request = some user) {first second : MemoryStore}
    (agree : MemoryStore.AgreeOn user.id first second) :
    ∃ (settled : Outcome (Except Refusal Response)) (left : Service) (firstLeft secondLeft : MemoryStore),
      (endpoint.serve request).settle.run (service.holding (.memory first)) = (settled, left.holding (.memory firstLeft)) ∧
      (endpoint.serve request).settle.run (service.holding (.memory second)) =
        (settled, left.holding (.memory secondLeft)) ∧
      MemoryStore.InStep user.id first second firstLeft secondLeft := by
  have begin : MemoryStore.InStep user.id first second first second := ⟨agree, .refl _ _, .refl _ _⟩
  have anywhere : ∀ store, (service.holding store).sender? request = some user := fun _ => known
  have runs : ∀ next : AuthenticatedUser → Handling Response,
      Alike (MemoryStore.InStep user.id first second) (next user).settle (fun _ => True) →
      ∃ (settled : Outcome (Except Refusal Response)) (left : Service) (firstLeft secondLeft : MemoryStore),
        (Bearer.user request >>= next).settle.run (service.holding (.memory first)) =
          (settled, left.holding (.memory firstLeft)) ∧
        (Bearer.user request >>= next).settle.run (service.holding (.memory second)) =
          (settled, left.holding (.memory secondLeft)) ∧
        MemoryStore.InStep user.id first second firstLeft secondLeft := by
    intro next alike
    obtain ⟨settled, left, firstLeft, secondLeft, ran, ranToo, step, -⟩ := alike service first second begin
    exact ⟨settled, left, firstLeft, secondLeft, (settle_of_sender (anywhere _) next).trans ran,
      (settle_of_sender (anywhere _) next).trans ranToo, step⟩
  cases endpoint with
  | portal => exact runs _ (.served .billing _ .portalFor)
  | subscription => exact runs _ (.served .billing _ .info)
  | consume =>
    unfold serve spendCredits
    cases read : body request with
    | error refusal => exact ⟨_, service, first, second, rfl, rfl, begin⟩
    | ok content =>
      simp only [settle_decided]
      exact runs _ (.settle_bind (.of_storeless (.readBody _ content)) fun wish => .served .usage _ (.consume _))
  | _ => cases account

end Endpoint

/-- Whether a service turns a request down whatever its store is: the answer is an error, the store is left as it is,
and neither the store nor the provider is asked anything. -/
def ClosedTo (service : Service) (freshId : String) (request : Request) : Prop :=
  ∃ response after, 400 ≤ response.status ∧ Unasked service after ∧ ∀ store : Store,
    (serve freshId request).run (service.holding store) = (.ok response, after.holding store)

/-- Whether a request concerns one user only: at two stores that agree on that user it has the same answer and does the
same to what is that user's, and nothing else changes than that user's counters. -/
def Confidential (service : Service) (freshId : String) (request : Request) (userId : String) : Prop :=
  ∀ first second : MemoryStore, MemoryStore.AgreeOn userId first second →
    ∃ (response : Response) (after : Service) (firstLeft secondLeft : MemoryStore),
      (serve freshId request).run (service.holding (.memory first)) = (.ok response, after.holding (.memory firstLeft)) ∧
      (serve freshId request).run (service.holding (.memory second)) = (.ok response, after.holding (.memory secondLeft)) ∧
      MemoryStore.InStep userId first second firstLeft secondLeft

/-- The account endpoints are closed to everybody whose token does not verify, and private to everybody else. -/
theorem account_private (freshId : String) {request : Request} {endpoint : Endpoint}
    (resolved : Endpoint.resolve request.method request.path = .ok endpoint) (account : endpoint.isAccount = true)
    (service : Service) :
    (service.sender? request = none → ClosedTo service freshId request) ∧
      ∀ user, service.sender? request = some user → Confidential service freshId request user.id := by
  obtain ⟨asks, full⟩ := Endpoint.method_of_served resolved
  have answered : ∀ {store after : Store} {settled : Outcome (Except Refusal Response)} {left : Service},
      (endpoint.serve request).settle.run ((entered freshId request service).holding store) =
        (settled, left.holding after) →
      (serve freshId request).run (service.holding store) =
        (.ok (reply freshId service.deployment.origins request settled),
          (closed request settled left).holding after) := by
    intro store after settled left served
    have routed : (route request).settle.run (entered freshId request (service.holding store)) =
        (settled, left.holding after) := (settle_route resolved _).trans served
    rw [run_serve freshId asks full routed, closed_holding]
    rfl
  refine ⟨fun unknown => ?_, fun user known first second agree => ?_⟩
  · have nobody : (entered freshId request service).sender? request = none := unknown
    obtain ⟨settled, left, turned, unasked, served⟩ := Endpoint.serve_of_nobody account nobody
    exact ⟨_, closed request settled left, turned.status freshId _ request, unasked.closed,
      fun store => answered (served store)⟩
  · have sender : (entered freshId request service).sender? request = some user := known
    obtain ⟨settled, left, firstLeft, secondLeft, served, servedToo, step⟩ :=
      Endpoint.serve_of_sender account sender agree
    exact ⟨_, closed request settled left, firstLeft, secondLeft, answered served, answered servedToo, step⟩

end Http

namespace Sample

def holder : Entitlement where
  userId := "u1"
  planId := "basic"
  expiresAt := march 30 0
  subscriptionId := "sub_1"
  priceId := "price_1"
  customerId := some "cus_1"
  cancelAtPeriodEnd := false
  createdAt := none
  updatedAt := none

def subscribed : MemoryStore := store.addEntitlement holder

def other : User := ⟨"u2", none, none, .text "cus_2"⟩

def desk : Service :=
  { shop with deployment := { deployment with
      tokens := .ofList [("t1", .user (.text "u1") .null)]
      available := { deployment.available with usage := true, identity := true } } }

def spendAs (token : String) : Http.Request where
  method := "POST"
  path := "/api/v1/billing/credits/consume"
  headers := [("content-type", "application/json"), ("authorization", "Bearer " ++ token)]
  body := "\x7b\"amount\":3\x7d"

theorem subscribed_agree : MemoryStore.AgreeOn "u1" subscribed (subscribed.addUser other) where
  keyed := store_keyed.addEntitlement holder
  keyedToo := (store_keyed.addEntitlement holder).addUser other
  plans := rfl
  user := OrderedMap.get?_insert_of_ne _ _ (by decide)
  entitlement := rfl
  usage _ _ := rfl

end Sample

namespace Http

open Server

/-- The credits are spent, whoever else is there, and a token that nobody knows spends nothing. -/
theorem account_private_spend :
    Sample.desk.sender? (Sample.spendAs "t1") = some ⟨"u1", none⟩ ∧ Sample.desk.sender? (Sample.spendAs "t2") = none ∧
      ClosedTo Sample.desk "r1" (Sample.spendAs "t2") ∧
      ∃ (response : Response) (after : Service) (first second : MemoryStore),
        (serve "r1" (Sample.spendAs "t1")).run (Sample.desk.holding (.memory Sample.subscribed)) =
          (.ok response, after.holding (.memory first)) ∧
        (serve "r1" (Sample.spendAs "t1")).run
            (Sample.desk.holding (.memory (Sample.subscribed.addUser Sample.other))) =
          (.ok response, after.holding (.memory second)) ∧
        first.usage.values.map (·.used) = [.whole 3] := by
  have addressed : ∀ token, Endpoint.resolve (Sample.spendAs token).method (Sample.spendAs token).path = .ok .consume :=
    fun _ => rfl
  have known : Sample.desk.sender? (Sample.spendAs "t1") = some ⟨"u1", none⟩ := by decide +kernel
  have unknown : Sample.desk.sender? (Sample.spendAs "t2") = none := by decide +kernel
  have spent : ((route (Sample.spendAs "t1")).settle.run (entered "r1" (Sample.spendAs "t1")
      (Sample.desk.holding (.memory Sample.subscribed)))).2.memory?.map (·.usage.values.map (·.used)) =
        some [.whole 3] := by
    decide +kernel
  obtain ⟨response, after, first, second, ran, ranToo, -⟩ :=
    (account_private "r1" (addressed "t1") rfl Sample.desk).2 _ known _ _ Sample.subscribed_agree
  rw [← memory?_serve "r1" (by decide) (by decide), ran] at spent
  exact ⟨known, unknown, (account_private "r1" (addressed "t2") rfl Sample.desk).1 unknown, response, after, first,
    second, ran, ranToo, Option.some.inj spent⟩

end Http

end PaidAccess
