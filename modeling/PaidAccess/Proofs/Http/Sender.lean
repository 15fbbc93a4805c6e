import PaidAccess.Proofs.Http.Answer
/-!
Who sent a request. A token tells that only if the identity service can be asked and says whom the token stands for;
whatever else comes of a token, the request is nobody's.
-/

namespace PaidAccess

open PaidAccess.Action

def Service.tokenUser? (service : Service) (token : String) : Option AuthenticatedUser :=
  match (service.deployment.tokens.get? token).getD .refused with
  | .user id email => (Identity.userOf id email).toOption
  | _ => none

/-- The user that sent a request, if it brings a token that can be verified and stands for one. -/
def Service.sender? (service : Service) (request : Http.Request) : Option AuthenticatedUser :=
  if service.deployment.available.identity then (Http.Bearer.ofRequest? request).bind service.tokenUser? else none

inductive Identity.Verified (service : Service) (who : Option AuthenticatedUser) :
    Outcome (Option AuthenticatedUser) × Service → Prop where
  | known (user : AuthenticatedUser) (stands : who = some user) : Verified service who (.ok (some user), service)
  | unknown (nobody : who = none) (entries : List LogEntry) :
      Verified service who (.ok none, entries.foldl Service.logged service)
  | failed (nobody : who = none) (failure : Failure) : Verified service who (.error failure, service)

theorem Identity.verify_verified (token : String) (service : Service) :
    Verified service (service.tokenUser? token) ((verify token).run service) := by
  have looked : (Action.read (·.deployment.tokens.get? token)).run service =
      (.ok (service.deployment.tokens.get? token), service) := rfl
  unfold verify Service.tokenUser?
  rw [run_bind, looked]
  dsimp only
  cases (service.deployment.tokens.get? token).getD .refused with
  | user id email =>
    dsimp only
    rw [run_bind]
    cases userOf id email with
    | ok user => exact .known user rfl
    | error failure => exact .failed rfl failure
  | nameless => exact .unknown rfl [_]
  | noUser => exact .unknown rfl []
  | noResponse => exact .unknown rfl []
  | refused => exact .unknown rfl [_]

namespace Http

/-- Whether a request is turned down: its answer will be an error. -/
inductive TurnedDown {α : Type} : Outcome (Except Refusal α) → Prop where
  | refused (refusal : Refusal) (grave : 400 ≤ refusal.response.status) : TurnedDown (.ok (.error refusal))
  | failed (failure : Failure) : TurnedDown (.error failure)

theorem TurnedDown.status {result : Outcome (Except Refusal Response)} (turned : TurnedDown result) (freshId : String)
    (origins : List String) (request : Request) :
    400 ≤ (Server.reply freshId origins request result).status := by
  have shows : 400 ≤ (Server.shown result).status := by
    have sends : ∀ response : Response, 400 ≤ response.status → 400 ≤ (Server.sent response).status := by
      intro response grave
      rcases Server.sent_status response with same | failed <;> omega
    cases turned with
    | refused refusal grave => exact sends _ grave
    | failed failure =>
      cases failure with
      | billing error =>
        refine sends _ ?_
        change 400 ≤ error.kind.status
        cases error.kind <;> decide
      | _ => exact (by decide : 400 ≤ 500)
  rw [(Server.reply_eq freshId origins request result).1]
  exact shows

namespace Bearer

open Handling

/-- What comes of asking who sent a request that must be signed in. -/
inductive SignedIn (service : Service) (who : Option AuthenticatedUser) :
    Outcome (Except Refusal AuthenticatedUser) × Service → Prop where
  | known (user : AuthenticatedUser) (sent : who = some user) : SignedIn service who (.ok (.ok user), service)
  | nobody (unknown : who = none) {settled : Outcome (Except Refusal AuthenticatedUser)} (turned : TurnedDown settled)
      (entries : List LogEntry) : SignedIn service who (settled, entries.foldl Service.logged service)

theorem signIn_settles (token : String) (service : Service) :
    SignedIn service (if service.deployment.available.identity then service.tokenUser? token else none)
      ((signIn token).settle.run service) := by
  have identity : Part.isAvailable service.deployment.available .identity = service.deployment.available.identity := rfl
  have verified := Identity.verify_verified token service
  unfold signIn
  rw [settle_demand, identity]
  cases service.deployment.available.identity with
  | false => exact .nobody rfl (.refused (.unavailable .identity) (by decide)) []
  | true =>
    simp only [↓reduceIte, settle_act]
    generalize (Identity.verify token).run service = result at verified ⊢
    cases verified with
    | known user stands => exact .known user stands
    | unknown nobody entries => exact .nobody nobody (.refused .tokenInvalid (by decide)) entries
    | failed nobody failure => exact .nobody nobody (.failed failure) []

theorem user_settles (request : Request) (service : Service) :
    SignedIn service (service.sender? request) ((user request).settle.run service) := by
  unfold user Service.sender?
  cases ofRequest? request with
  | none => exact .nobody (ite_self none) (.refused .unauthenticated (by decide)) []
  | some token => exact signIn_settles token service

theorem eq_of_userOrGuest {request : Request} {service after : Service} {found : Option AuthenticatedUser}
    (settled : (userOrGuest request).settle.run service = (.ok (.ok found), after)) :
    service.sender? request = found ∧ after = service := by
  unfold userOrGuest at settled
  unfold Service.sender?
  cases brought : ofRequest? request with
  | none =>
    rw [brought] at settled
    cases settled
    exact ⟨ite_self none, rfl⟩
  | some token =>
    have signed := signIn_settles token service
    rw [brought] at settled
    dsimp only at settled
    rw [map_eq_pure_bind, settle_bind] at settled
    generalize (signIn token).settle.run service = result at signed settled
    cases signed with
    | known user stands =>
      cases settled
      exact ⟨stands, rfl⟩
    | nobody unknown turned entries => cases turned <;> cases settled

end Bearer

end Http

end PaidAccess
