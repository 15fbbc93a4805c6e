import PaidAccess.Http.Server
import PaidAccess.Proofs.Service.Interruption
/-!
What a server makes of a request. An endpoint is run first; what comes of it decides the answer and is decided by
nothing else, so `run_serve` reduces a statement about the server to one about the endpoint.
-/

namespace PaidAccess.Http

open PaidAccess.Action

namespace Handling

variable {α β : Type}

theorem settle_bind (handling : Handling α) (next : α → Handling β) (service : Service) :
    (handling >>= next).settle.run service = match handling.settle.run service with
      | (.ok (.ok value), between) => (next value).settle.run between
      | (.ok (.error refusal), between) => (.ok (.error refusal), between)
      | (.error failure, between) => (.error failure, between) := by
  have settled : (handling >>= next).settle = handling.settle >>= ExceptT.bindCont next := rfl
  rw [settled, run_bind]
  rcases handling.settle.run service with ⟨failure | ⟨refusal | value⟩, between⟩ <;> rfl

theorem settle_act (action : Action α) (next : α → Handling β) (service : Service) :
    (act action >>= next).settle.run service = match action.run service with
      | (.ok value, after) => (next value).settle.run after
      | (.error failure, after) => (.error failure, after) := by
  have settled : (act action).settle = action >>= fun value => Pure.pure (.ok value) := rfl
  rw [settle_bind, settled, run_bind]
  rcases action.run service with ⟨failure | value, after⟩ <;> rfl

theorem settle_decided (value : α) (next : α → Handling β) (service : Service) :
    (decided (.ok value) >>= next).settle.run service = (next value).settle.run service := by
  rw [settle_bind]
  rfl

theorem settle_demand (part : Part) (next : Unit → Handling β) (service : Service) :
    (demand part >>= next).settle.run service =
      if part.isAvailable service.deployment.available then (next ()).settle.run service
      else (.ok (.error (.unavailable part)), service) := by
  unfold demand
  have looked : (Action.read (·.deployment.available)).run service = (.ok service.deployment.available, service) := rfl
  rw [settle_bind, settle_act, looked]
  dsimp only
  cases part.isAvailable service.deployment.available <;> rfl

/-! What is known of a computation that is neither refused nor fails. -/

section

variable {service after : Service} {value : α}

theorem ok_of_bind {handling : Handling β} {next : β → Handling α}
    (settled : (handling >>= next).settle.run service = (.ok (.ok value), after)) :
    ∃ first between, handling.settle.run service = (.ok (.ok first), between) ∧
      (next first).settle.run between = (.ok (.ok value), after) := by
  rw [settle_bind] at settled
  rcases ran : handling.settle.run service with ⟨failure | refusal | first, between⟩ <;> rw [ran] at settled
  · cases settled
  · cases settled
  · exact ⟨first, between, rfl, settled⟩

theorem ok_of_act {action : Action α} (settled : (act action).settle.run service = (.ok (.ok value), after)) :
    action.run service = (.ok value, after) := by
  have carried : (act action).settle = action >>= fun value => Pure.pure (.ok value) := rfl
  rw [carried, run_bind] at settled
  rcases ran : action.run service with ⟨failure | found, left⟩ <;> rw [ran] at settled <;> cases settled
  rfl

theorem ok_of_decided {result : Except Refusal α}
    (settled : (decided result).settle.run service = (.ok (.ok value), after)) : result = .ok value ∧ after = service := by
  cases settled
  exact ⟨rfl, rfl⟩

theorem ok_of_demand {part : Part} {done : Unit} (settled : (demand part).settle.run service = (.ok (.ok done), after)) :
    part.isAvailable service.deployment.available = true ∧ after = service := by
  obtain ⟨available, between, looked, rest⟩ := ok_of_bind settled
  cases ok_of_act looked
  split at rest
  next => cases rest
  next present =>
    cases rest
    exact ⟨by simpa using present, rfl⟩

end

end Handling

namespace Endpoint

variable {method path : String} {endpoint : Endpoint}

theorem method_of_resolve (resolved : resolve method path = .ok endpoint) : endpoint.method = method := by
  unfold resolve at resolved
  split at resolved
  next found _ =>
    split at resolved
    next same =>
      cases resolved
      exact same
    next => cases resolved
  next => split at resolved <;> cases resolved

theorem method_of_served (resolved : resolve method path = .ok endpoint) : method ≠ "OPTIONS" ∧ method ≠ "HEAD" := by
  rw [← method_of_resolve resolved]
  cases endpoint <;> decide

end Endpoint

namespace Server

variable {request : Request} {service left : Service} {result : Outcome (Except Refusal Response)}

theorem settle_route {endpoint : Endpoint} (resolved : Endpoint.resolve request.method request.path = .ok endpoint)
    (service : Service) : (route request).settle.run service = (endpoint.serve request).settle.run service := by
  unfold route
  rw [resolved, Handling.settle_decided]

def sent (response : Response) : Response :=
  match response.content with
  | .json value => if Json.isStandard value then response else unexplained
  | .text _ => response

/-- What comes of a request, as its sender sees it. -/
def shown : Outcome (Except Refusal Response) → Response
  | .ok (.ok response) => sent response
  | .ok (.error refusal) => sent refusal.response
  | .error (.billing error) => sent (.detail error.kind.status (.text error.message))
  | .error _ => unexplained

def sent? (response : Response) : Option Response :=
  match response.content with
  | .json value => if Json.isStandard value then some response else none
  | .text _ => some response

def told? : Outcome (Except Refusal Response) → Option Response
  | .ok (.ok response) => some response
  | .ok (.error refusal) => some refusal.response
  | .error (.billing error) => some (.detail error.kind.status (.text error.message))
  | .error _ => none

def shown? (result : Outcome (Except Refusal Response)) : Option Response := (told? result).bind sent?

theorem sent_eq (response : Response) : sent response = (sent? response).getD unexplained := by
  unfold sent sent?
  split
  next => split <;> rfl
  next => rfl

theorem shown_eq (result : Outcome (Except Refusal Response)) : shown result = (shown? result).getD unexplained := by
  have tells : shown result = ((told? result).map sent).getD unexplained := by
    rcases result with failure | refusal | response
    · cases failure <;> rfl
    · rfl
    · rfl
  rw [tells, shown?]
  cases told? result with
  | none => rfl
  | some response => exact sent_eq response

theorem sent_status (response : Response) :
    (sent response).status = response.status ∨ (sent response).status = 500 := by
  unfold sent
  split
  next =>
    split
    next => exact .inl rfl
    next => exact .inr rfl
  next => exact .inl rfl

theorem eq_of_sent? {response shows : Response} (sends : sent? response = some shows) : shows = response := by
  unfold sent? at sends
  split at sends
  next =>
    split at sends
    next => exact (Option.some.inj sends).symm
    next => cases sends
  next => exact (Option.some.inj sends).symm

def idOf (freshId : String) (request : Request) : String :=
  (present? (request.header? "x-request-id")).getD freshId

def entered (freshId : String) (request : Request) (service : Service) : Service :=
  { service with context := contextOf ((present? (request.header? "x-request-id")).getD freshId) request }

def noted (request : Request) (result : Outcome (Except Refusal Response)) (left : Service) : Service :=
  match result with
  | .error (.billing error) => left.logged (errorEntry request.shownPath error)
  | _ => left

def closed (request : Request) (result : Outcome (Except Refusal Response)) (left : Service) : Service :=
  { noted request result left with context := [] }

/-- The answer to a request of which this comes. An unexpected failure is answered without any headers. -/
def reply (freshId : String) (origins : List String) (request : Request)
    (result : Outcome (Except Refusal Response)) : Response :=
  match shown? result with
  | some response =>
      (response.withHeaders [("x-request-id", idOf freshId request)]).withHeaders (CrossOrigin.headers origins request)
  | none => unexplained

theorem reply_eq (freshId : String) (origins : List String) (request : Request)
    (result : Outcome (Except Refusal Response)) :
    (reply freshId origins request result).status = (shown result).status ∧
      (reply freshId origins request result).content = (shown result).content := by
  unfold reply
  rw [shown_eq]
  cases shown? result <;> exact ⟨rfl, rfl⟩

theorem eq_of_shown_status (succeeded : (shown result).status = 200) : result = .ok (.ok (shown result)) := by
  rw [shown_eq] at succeeded ⊢
  cases shows : shown? result with
  | none =>
    rw [shows] at succeeded
    cases succeeded
  | some response =>
    rw [shows] at succeeded
    obtain ⟨told, tells, sends⟩ := Option.bind_eq_some_iff.mp shows
    obtain rfl := eq_of_sent? sends
    rcases result with failure | refusal | returned
    · cases failure with
      | billing error =>
        cases tells
        revert succeeded
        change error.kind.status = 200 → _
        cases error.kind <;> intro impossible <;> cases impossible
      | _ => cases tells
    · cases tells
      cases refusal <;> cases succeeded
    · cases tells
      rfl

theorem preflight?_eq_none (origins : List String) (asks : request.method ≠ "OPTIONS") :
    CrossOrigin.preflight? origins request = none := by
  unfold CrossOrigin.preflight? CrossOrigin.askedMethod?
  rw [if_neg asks]
  split
  next => contradiction
  next => rfl

theorem run_sendable (response : Response) (service : Service) :
    ∃ outcome, (sendable response).run service = (outcome, service) ∧ outcome.toOption = sent? response := by
  unfold sendable sent?
  cases response.content with
  | json value =>
    dsimp only
    cases Json.isStandard value <;> exact ⟨_, rfl, rfl⟩
  | text content => exact ⟨_, rfl, rfl⟩

theorem run_answer (routed : (route request).settle.run service = (result, left)) :
    ∃ outcome, (answer request).run service = (outcome, noted request result left) ∧
      outcome.toOption = shown? result := by
  unfold answer shown?
  rw [run_bind, run_recover, run_bind, routed]
  rcases result with failure | refusal | response
  · cases failure with
    | billing error => exact run_sendable _ _
    | _ => exact ⟨_, rfl, rfl⟩
  · exact run_sendable refusal.response left
  · exact run_sendable response left

theorem run_serve (freshId : String) (asks : request.method ≠ "OPTIONS") (full : request.method ≠ "HEAD")
    (routed : (route request).settle.run (entered freshId request service) = (result, left)) :
    (serve freshId request).run service =
      (.ok (reply freshId service.deployment.origins request result), closed request result left) := by
  obtain ⟨outcome, answered, shows⟩ := run_answer routed
  have origins : (read (·.deployment.origins)).run service = (.ok service.deployment.origins, service) := rfl
  have entering : (enter (contextOf (idOf freshId request) request)).run service =
      (.ok (), entered freshId request service) := rfl
  unfold serve reply answerAs
  rw [run_bind, origins]
  dsimp only
  rw [preflight?_eq_none _ asks]
  dsimp only
  rw [run_bind, run_recover, run_bind, run_bind, ← idOf, entering]
  dsimp only
  rw [run_bind, answered, ← shows]
  simp only [if_neg full]
  cases outcome <;> rfl

end Server

end PaidAccess.Http
