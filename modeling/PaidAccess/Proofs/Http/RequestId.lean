import PaidAccess.Proofs.Http.Answer
import PaidAccess.Proofs.Service.Sample
import PaidAccess.Proofs.Store.Search
/-!
The id of a request in its answer. Every answer carries it, unless the request fails for an unexpected reason. The
exception are answers to browsers that ask whether a page may send a request: they are given before a request gets its id.
-/

namespace PaidAccess

namespace Http

open PaidAccess.Action

def requestIds (headers : List Header) : List String :=
  (headers.filter fun header => header.1.toLower == "x-request-id").map (·.2)

theorem requestIds_append (first second : List Header) :
    requestIds (first ++ second) = requestIds first ++ requestIds second := by
  simp [requestIds]

theorem requestIds_single (id : String) : requestIds [("x-request-id", id)] = [id] := by
  have named : "x-request-id".toLower = "x-request-id" := by decide +kernel
  simp [requestIds, named]

def otherNames : List String :=
  ["allow", "location", "www-authenticate", "access-control-allow-methods", "access-control-max-age",
    "access-control-allow-credentials", "access-control-allow-origin", "access-control-allow-headers"]

theorem requestIds_eq_nil {headers : List Header} (named : ∀ header ∈ headers, header.1 ∈ otherNames) :
    requestIds headers = [] := by
  have differs : ∀ name ∈ otherNames, name.toLower ≠ "x-request-id" := by decide +kernel
  simp only [requestIds, List.map_eq_nil_iff, List.filter_eq_nil_iff]
  intro header listed
  simpa using differs header.1 (named header listed)

theorem requestIds_refusal (refusal : Refusal) : requestIds refusal.response.headers = [] := by
  apply requestIds_eq_nil
  cases refusal <;>
    simp [Refusal.response, Response.detail, Response.ofValue, Response.ofText, Response.withHeaders, otherNames]

/-- Whether a browser asks with the request whether a page may send another one. -/
def Request.IsPreflight (request : Request) : Prop :=
  request.method = "OPTIONS" ∧ (request.header? "origin").isSome ∧
    (request.header? "access-control-request-method").isSome

namespace CrossOrigin

variable (origins : List String) (request : Request)

theorem mem_headerOf {name : String} {value : Option String} {header : Header} (listed : header ∈ headerOf name value) :
    header.1 = name := by
  cases value with
  | none => cases listed
  | some content => rw [List.mem_singleton.mp listed]

theorem requestIds_headers : requestIds (headers origins request) = [] := by
  apply requestIds_eq_nil
  unfold headers
  intro header listed
  split at listed
  next origin _ =>
    rcases List.mem_cons.mp listed with rfl | listed
    · decide
    · rw [mem_headerOf listed]
      decide
  next => cases listed

theorem standing_names : ∀ header ∈ standing, header.1 ∈ otherNames := by
  simp [standing, otherNames]

theorem preflight?_eq_none_iff : preflight? origins request = none ↔ ¬ request.IsPreflight := by
  unfold preflight? askedMethod? Request.IsPreflight
  by_cases asks : request.method = "OPTIONS"
  · cases request.header? "origin" with
    | none => simp
    | some origin =>
      cases request.header? "access-control-request-method" with
      | none => simp [asks]
      | some method =>
        simp only [asks, if_true]
        cases objections origins origin method request <;> simp
  · cases request.header? "origin" <;> simp [asks]

theorem requestIds_preflight {response : Response} (asked : preflight? origins request = some response) :
    requestIds response.headers = [] := by
  apply requestIds_eq_nil
  intro header listed
  unfold preflight? at asked
  split at asked
  next origin method _ _ =>
    have carried : header ∈ standing ++ headerOf "access-control-allow-origin" (admitted origins origin)
        ++ headerOf "access-control-allow-headers" (request.header? "access-control-request-headers") := by
      split at asked <;> cases asked <;> exact listed
    rcases List.mem_append.mp carried with carried | allowed
    · rcases List.mem_append.mp carried with always | named
      · exact standing_names header always
      · rw [mem_headerOf named]
        decide
    · rw [mem_headerOf allowed]
      decide
  next => cases asked

end CrossOrigin

namespace Handling

variable {α β : Type} {condition : α → Prop}

/-- Whether everything that a computation returns satisfies a condition. -/
def Returns (handling : Handling α) (condition : α → Prop) : Prop :=
  ∀ service value after, handling.settle.run service = (.ok (.ok value), after) → condition value

theorem Returns.pure {value : α} (satisfied : condition value) : (Pure.pure value : Handling α).Returns condition := by
  intro service returned after settled
  cases settled
  exact satisfied

theorem Returns.refuse (error : BillingError) : (act (Action.refuse error) : Handling α).Returns condition := by
  intro service returned after settled
  cases ok_of_act settled

theorem Returns.bind {handling : Handling β} {next : β → Handling α}
    (rest : ∀ value, (next value).Returns condition) : (handling >>= next).Returns condition := by
  intro service returned after settled
  obtain ⟨value, between, -, left⟩ := ok_of_bind settled
  exact rest value between returned after left

end Handling

namespace Endpoint

open Handling

theorem serve_returns (request : Request) (endpoint : Endpoint) :
    (endpoint.serve request).Returns fun response => response.headers = [] := by
  cases endpoint with
  | root => exact .pure rfl
  | health => exact .pure rfl
  | checkout =>
    apply Returns.bind; intro content
    apply Returns.bind; intro user
    apply Returns.bind; intro order
    apply Returns.bind; intro billing
    apply Returns.bind; intro provider
    apply Returns.bind; intro config
    cases priceOf config order with
    | none => exact .refuse _
    | some price => exact .bind fun session => .pure rfl
  | portal => exact .bind fun user => .bind fun billing => .bind fun session => .pure rfl
  | subscription => exact .bind fun user => .bind fun billing => .bind fun info => .pure rfl
  | consume =>
    exact .bind fun content => .bind fun user => .bind fun wish => .bind fun usage => .bind fun spent => .pure rfl
  | webhook =>
    exact .bind fun billing => .bind fun provider => .bind fun opened => .bind fun event => .bind fun processed =>
      .pure rfl

end Endpoint

namespace Server

variable {request : Request} {service left : Service}

theorem requestIds_shown {response : Response} {result : Outcome (Except Refusal Response)}
    (routed : (route request).settle.run service = (result, left)) (shows : shown? result = some response) :
    requestIds response.headers = [] := by
  obtain ⟨told, tells, sends⟩ := Option.bind_eq_some_iff.mp shows
  obtain rfl := eq_of_sent? sends
  rcases result with failure | refusal | returned
  · cases failure with
    | billing error =>
      cases tells
      rfl
    | _ => cases tells
  · cases tells
    exact requestIds_refusal refusal
  · cases tells
    unfold route at routed
    obtain ⟨endpoint, between, -, served⟩ := Handling.ok_of_bind routed
    rw [endpoint.serve_returns request between response left served]
    rfl

theorem run_serve_answerAs (freshId : String) (service : Service) (plain : ¬ request.IsPreflight) :
    (serve freshId request).run service =
      match (answerAs (idOf freshId request) request).run service with
      | (.ok response, after) =>
          (.ok (response.withHeaders (CrossOrigin.headers service.deployment.origins request)), { after with context := [] })
      | (.error _, after) => (.ok unexplained, { after with context := [] }) := by
  have origins : (read (·.deployment.origins)).run service = (.ok service.deployment.origins, service) := rfl
  unfold serve
  rw [run_bind, origins]
  simp only [(CrossOrigin.preflight?_eq_none_iff service.deployment.origins request).mpr plain]
  rw [run_bind, run_recover, run_bind, ← idOf]
  rcases (answerAs (idOf freshId request) request).run service with ⟨failure | response, after⟩ <;> rfl

theorem requestIds_answerAs {id : String} {response : Response} {after : Service}
    (answered : (answerAs id request).run service = (.ok response, after)) : requestIds response.headers = [id] := by
  have entering : (enter (contextOf id request)).run service =
      (.ok (), { service with context := contextOf id request }) := rfl
  unfold answerAs at answered
  rw [run_bind, entering] at answered
  dsimp only at answered
  rcases routed : (route request).settle.run { service with context := contextOf id request } with ⟨result, left⟩
  obtain ⟨outcome, told, shows⟩ := run_answer routed
  rw [run_bind, told] at answered
  cases outcome with
  | error failure => cases answered
  | ok shown =>
    have bare : requestIds shown.headers = [] := requestIds_shown routed shows.symm
    have carried : requestIds (shown.withHeaders [("x-request-id", id)]).headers = [id] := by
      simp [Response.withHeaders, requestIds_append, bare, requestIds_single]
    have returned : response.headers = (shown.withHeaders [("x-request-id", id)]).headers := by
      by_cases short : request.method = "HEAD" <;> simp only [short, if_true, if_false] at answered <;> cases answered <;> rfl
    rw [returned, carried]

/-- Whether a request fails for a reason that nobody is told. Questions of browsers never do. -/
def Fails (freshId : String) (request : Request) (service : Service) : Prop :=
  ¬ request.IsPreflight ∧ ∃ failure after, (answerAs (idOf freshId request) request).run service = (.error failure, after)

theorem not_fails_of_shown {freshId : String}
    (shows : (shown? ((route request).settle.run (entered freshId request service)).1).isSome) :
    ¬ Fails freshId request service := by
  intro ⟨_, failure, after, failed⟩
  have entering : (enter (contextOf (idOf freshId request) request)).run service =
      (.ok (), entered freshId request service) := rfl
  rcases routed : (route request).settle.run (entered freshId request service) with ⟨result, left⟩
  obtain ⟨outcome, told, shown⟩ := run_answer routed
  unfold answerAs at failed
  rw [run_bind, entering] at failed
  dsimp only at failed
  rw [run_bind, told] at failed
  rw [routed, ← shown] at shows
  cases outcome with
  | error refused => cases shows
  | ok response => cases failed

/-- A request that does not fail unexpectedly is answered with its id, its own or else a fresh one, and with no other id
exactly if it is not a browser's question whether a page may send a request. -/
theorem request_id_carried_iff (freshId : String) (request : Request) (service : Service)
    (expected : ¬ Fails freshId request service) :
    ∃ response after, (serve freshId request).run service = (.ok response, after) ∧
      (requestIds response.headers = [idOf freshId request] ↔ ¬ request.IsPreflight) := by
  by_cases asked : request.IsPreflight
  · cases found : CrossOrigin.preflight? service.deployment.origins request with
    | none => exact absurd asked ((CrossOrigin.preflight?_eq_none_iff _ _).mp found)
    | some response =>
      have served : (serve freshId request).run service = (.ok response, service) := by
        have origins : (read (·.deployment.origins)).run service = (.ok service.deployment.origins, service) := rfl
        unfold serve
        rw [run_bind, origins]
        simp only [found]
        rfl
      have bare := CrossOrigin.requestIds_preflight _ _ found
      exact ⟨response, service, served, by simp [bare, asked]⟩
  · have served := run_serve_answerAs freshId service asked
    rcases answered : (answerAs (idOf freshId request) request).run service with ⟨failure | response, after⟩
    · exact absurd ⟨asked, failure, after, answered⟩ expected
    · rw [answered] at served
      refine ⟨_, _, served, ?_⟩
      have carried := requestIds_answerAs answered
      have headers := CrossOrigin.requestIds_headers service.deployment.origins request
      simp [Response.withHeaders, requestIds_append, carried, headers, asked]

end Server

end Http

namespace Sample

def called : Service := { shop with deployment := { deployment with origins := ["http://localhost:5173"] } }

def portalRequest : Http.Request where
  method := "POST"
  path := "/api/v1/billing/portal"
  headers := [("Origin", "http://localhost:5173"), ("X-Request-ID", "lb-trace-42")]
  body := ""

def portalQuestion : Http.Request :=
  { portalRequest with
    method := "OPTIONS"
    headers := ("Access-Control-Request-Method", "POST") :: portalRequest.headers }

end Sample

namespace Http.Server

open Sample

/-- A request that is turned down is answered with its id. -/
theorem request_id_carried_of_portal :
    ¬ Fails "r1" portalRequest called ∧ ∃ response after,
      (serve "r1" portalRequest).run called = (.ok response, after) ∧ requestIds response.headers = ["lb-trace-42"] := by
  have named : idOf "r1" portalRequest = "lb-trace-42" := by decide +kernel
  have turned : ((route portalRequest).settle.run (entered "r1" portalRequest called)).1 =
      .ok (.error .unauthenticated) := by
    have guest : Bearer.ofRequest? portalRequest = none := by decide +kernel
    have resolved : Endpoint.resolve portalRequest.method portalRequest.path = .ok .portal := rfl
    rw [settle_route resolved]
    simp only [Endpoint.serve, Endpoint.openPortal, Bearer.user, guest]
    rfl
  have whole : ∀ text ∈ ["detail", "Not authenticated"], Surrogate.isWhole text = true :=
    fun text listed => Bool.or_eq_true_iff.mpr (.inr (by revert text; decide))
  have expected : ¬ Fails "r1" portalRequest called := by
    apply not_fails_of_shown
    rw [turned]
    simp only [List.forall_mem_cons] at whole
    simp [shown?, told?, sent?, Refusal.response, Response.detail, Response.ofValue, Response.withHeaders,
      Json.isStandard, Json.haveStandard, whole]
  have plain : ¬ portalRequest.IsPreflight := fun asked => absurd asked.1 (by decide)
  obtain ⟨response, after, served, carried⟩ := request_id_carried_iff "r1" portalRequest called expected
  exact ⟨expected, response, after, served, by rw [carried.mpr plain, named]⟩

/-- The question whether it may be sent brings the same id and is answered with none. -/
theorem request_id_missing_of_question :
    ¬ Fails "r1" portalQuestion called ∧ idOf "r1" portalQuestion = "lb-trace-42" ∧ ∃ response after,
      (serve "r1" portalQuestion).run called = (.ok response, after) ∧ response.status = 200 ∧
        requestIds response.headers = [] := by
  have answered : (((serve "r1" portalQuestion).run called).1.toOption.map fun response =>
      (response.status, requestIds response.headers)) = some (200, []) := by
    decide +kernel
  have asked : portalQuestion.IsPreflight := ⟨rfl, by decide +kernel, by decide +kernel⟩
  rcases served : (serve "r1" portalQuestion).run called with ⟨outcome, after⟩
  rw [served] at answered
  obtain ⟨response, returned, shows⟩ := Option.map_eq_some_iff.mp answered
  obtain ⟨status, bare⟩ := Prod.mk.inj shows
  obtain rfl : outcome = .ok response := Outcome.eq_ok_of_toOption returned
  exact ⟨fun failed => failed.1 asked, by decide +kernel, response, after, rfl, status, bare⟩

end Http.Server

end PaidAccess
