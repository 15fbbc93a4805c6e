import PaidAccess.Proofs.Http.Answer
import PaidAccess.Proofs.Service.Untouched
import PaidAccess.Proofs.Service.Sample
/-!
Announcements that are delivered over HTTP. The provider delivers an announcement again unless it is answered with
success, so an answer must not claim more than was done.
-/

namespace PaidAccess

def Outcome.told? {α : Type} : Outcome α → Option (BillingError.Class × String)
  | .error (.billing error) => some (error.kind, error.message)
  | _ => none

theorem Outcome.told?_eq_some {α : Type} {outcome : Outcome α} {kind : BillingError.Class} {message : String}
    (told : outcome.told? = some (kind, message)) :
    ∃ error, outcome = .error (.billing error) ∧ error.kind = kind ∧ error.message = message := by
  cases outcome with
  | ok => cases told
  | error failure =>
    cases failure with
    | billing error =>
      cases told
      exact ⟨error, rfl, rfl, rfl⟩
    | _ => cases told

/-- A billing error that blames the client and that a client can be told. -/
def Failure.BlamesClient (failure : Failure) : Prop :=
  ∃ error, failure = .billing error ∧ error.kind ≠ .internal ∧ Surrogate.isWhole error.message = true

theorem Failure.BlamelessBut.given_of_blames {given : Failure → Prop} {failure : Failure}
    (blameless : failure.BlamelessBut given) (blames : failure.BlamesClient) : given failure := by
  obtain ⟨error, rfl, outward, -⟩ := blames
  exact blameless.resolve_left outward

namespace Http

open PaidAccess.Action

namespace Endpoint

open Handling

variable {request : Request} {service verified : Service} {event contents : Value}

def signatureOf (request : Request) : Value := .ofText? (request.header? "stripe-signature")

/-- Whether a service verifies a message: it has what it takes, and the provider says which event the message holds. -/
structure Verifies (service : Service) (request : Request) (event : Value) (verified : Service) : Prop where
  billing : Part.billing.isAvailable service.deployment.available = true
  provider : Part.provider.isAvailable service.deployment.available = true
  secret : service.deployment.provider.webhookSecret ≠ ""
  signature : (signatureOf request).truthy = true
  answered : (ask (.openEvent request.body (signatureOf request) service.deployment.provider.webhookSecret
    service.deployment.tolerance)).run service = (.ok event, verified)

def acting (event : Value) : Action Bool := lift (Payload.contents event) >>= Webhook.handle

def eventIn (request : Request) : Action Value := ProviderClient.openEvent request.body (signatureOf request)

/-- Whether a service verifies a message and reads the event in it. -/
structure Accepts (service : Service) (request : Request) (contents : Value) (verified : Service) : Prop where
  billing : Part.billing.isAvailable service.deployment.available = true
  provider : Part.provider.isAvailable service.deployment.available = true
  signed : (eventIn request).run service = (.ok contents, verified)

theorem Verifies.run_eventIn (verifies : Verifies service request event verified) :
    (eventIn request).run service = (Payload.contents event, verified) := by
  have signed : ¬ (!(signatureOf request).truthy) = true := by simp [verifies.signature]
  rw [eventIn, run_openEvent, if_neg verifies.secret, if_neg signed, run_bind, verifies.answered]
  rfl

theorem Verifies.accepts (verifies : Verifies service request event verified)
    (read : Payload.contents event = .ok contents) : Accepts service request contents verified :=
  ⟨verifies.billing, verifies.provider, read ▸ verifies.run_eventIn⟩

theorem Accepts.verifies (accepts : Accepts service request contents verified) :
    ∃ event, Verifies service request event verified ∧ Payload.contents event = .ok contents := by
  have signed := accepts.signed
  rw [eventIn, run_openEvent] at signed
  split at signed
  next => cases signed
  next secret =>
    split at signed
    next => cases signed
    next signature =>
      rw [run_bind] at signed
      rcases asked : (ask _).run service with ⟨failure | event, left⟩ <;> rw [asked] at signed
      · cases signed
      · obtain ⟨read, rfl⟩ := Prod.mk.inj signed
        exact ⟨event, ⟨accepts.billing, accepts.provider, secret, by simpa using signature, asked⟩, read⟩

theorem Accepts.opened (accepts : Accepts service request contents verified) : service.Untouched verified := by
  have opened : service.Untouched ((eventIn request).run service).2 := Untouching.openEvent _ _ service
  rwa [accepts.signed] at opened

theorem Verifies.trusted {given : Failure → Prop} (verifies : Verifies service request event verified)
    (blameless : service.BlamelessBut given) : verified.BlamelessBut given := by
  have trusted := (BlamelessBut.ask (.openEvent request.body (signatureOf request)
    service.deployment.provider.webhookSecret service.deployment.tolerance) service blameless).2
  rwa [verifies.answered] at trusted

theorem run_acting_of_read (read : Payload.contents event = .ok contents) (service : Service) :
    (acting event).run service = (Webhook.handle contents).run service := by
  rw [acting, run_bind, read]
  rfl

theorem run_acting_of_unread {failure : Failure} (unread : Payload.contents event = .error failure) (service : Service) :
    (acting event).run service = (.error failure, service) := by
  rw [acting, run_bind, unread]
  rfl

def receipt (processed : Bool) : Response := .ofValue 200 (WebhookReceipt.mk true processed).toValue

theorem announcement_of_signed (signed : (eventIn request).run service = (.ok contents, verified)) :
    (announcement request).run service = (.ok (.ok contents), verified) := by
  unfold eventIn signatureOf at signed
  unfold announcement
  rw [run_recover, run_bind, signed]
  rfl

theorem announcement_of_unsigned {failure : Failure} {left : Service}
    (unsigned : (eventIn request).run service = (.error failure, left)) :
    ∃ reason after, (announcement request).run service = (.ok (.error (.unverified reason)), after) ∧
      left.Untouched after := by
  unfold eventIn signatureOf at unsigned
  unfold announcement
  rw [run_recover, run_bind, unsigned]
  dsimp only
  split
  next => exact ⟨failure.text, left, rfl, .refl left⟩
  next => exact ⟨"Invalid webhook signature", _, rfl, .logged left _⟩

theorem takeAnnouncement_of_accepts (accepts : Accepts service request contents verified) :
    (takeAnnouncement request).settle.run service = match (Webhook.handle contents).run verified with
      | (.ok processed, after) => (.ok (.ok (receipt processed)), after)
      | (.error failure, after) => (.error failure, after) := by
  unfold takeAnnouncement
  rw [settle_demand, if_pos accepts.billing, settle_demand, if_pos accepts.provider, settle_act,
    announcement_of_signed accepts.signed]
  dsimp only
  rw [settle_decided, settle_act]
  rcases (Webhook.handle contents).run verified with ⟨failure | processed, after⟩ <;> rfl

theorem takeAnnouncement_of_unread {failure : Failure} (verifies : Verifies service request event verified)
    (unread : Payload.contents event = .error failure) :
    ∃ after, (takeAnnouncement request).settle.run service =
      (.ok (.error (.unverified "Invalid webhook signature")), after) := by
  have lacking : failure = .noSuchMember := by
    cases event <;> cases unread <;> rfl
  have signed : (ProviderClient.openEvent request.body (.ofText? (request.header? "stripe-signature"))).run service =
      (.error .noSuchMember, verified) := lacking ▸ unread ▸ verifies.run_eventIn
  unfold takeAnnouncement announcement
  rw [settle_demand, if_pos verifies.billing, settle_demand, if_pos verifies.provider, settle_act, run_recover, run_bind,
    signed]
  exact ⟨_, rfl⟩

theorem takeAnnouncement_of_refused (refused : ∀ contents verified, ¬ Accepts service request contents verified) :
    ∃ refusal after, (takeAnnouncement request).settle.run service = (.ok (.error refusal), after) ∧
      service.Untouched after ∧ (refusal.response.status = 400 ∨ refusal.response.status = 503) := by
  unfold takeAnnouncement
  rw [settle_demand]
  cases billing : Part.billing.isAvailable service.deployment.available with
  | false => exact ⟨.unavailable .billing, service, rfl, .refl service, .inr rfl⟩
  | true =>
    rw [if_pos rfl, settle_demand]
    cases provider : Part.provider.isAvailable service.deployment.available with
    | false => exact ⟨.unavailable .provider, service, rfl, .refl service, .inr rfl⟩
    | true =>
      have untouched : service.Untouched ((eventIn request).run service).2 := Untouching.openEvent _ _ service
      rw [if_pos rfl, settle_act]
      rcases signed : (eventIn request).run service with ⟨failure | event, left⟩ <;> rw [signed] at untouched
      · obtain ⟨reason, after, ran, logged⟩ := announcement_of_unsigned signed
        rw [ran]
        exact ⟨.unverified reason, after, rfl, untouched.trans logged, .inl rfl⟩
      · exact absurd ⟨billing, provider, signed⟩ (refused event left)

end Endpoint

namespace Server

variable {request : Request} {service left : Service} {result : Outcome (Except Refusal Response)}

theorem shown_receipt (processed : Bool) :
    shown (.ok (.ok (Endpoint.receipt processed))) = Endpoint.receipt processed := by
  have standard : Json.isStandard (WebhookReceipt.mk true processed).toValue = true := by
    have first : Surrogate.isWhole "received" = true := Bool.or_eq_true_iff.mpr (.inr (by decide))
    have second : Surrogate.isWhole "processed" = true := Bool.or_eq_true_iff.mpr (.inr (by decide))
    simp [WebhookReceipt.toValue, Json.isStandard, Json.haveStandard, first, second]
  exact if_pos standard

theorem sent_detail_status (status : Nat) (message : String) :
    (sent (.detail status (.text message))).status = if Surrogate.isWhole message then status else 500 := by
  have named : Surrogate.isWhole "detail" = true := Bool.or_eq_true_iff.mpr (.inr (by decide))
  have standard : Json.isStandard (.record [("detail", .text message)]) = Surrogate.isWhole message := by
    simp [Json.isStandard, Json.haveStandard, named]
  unfold sent Response.detail Response.ofValue
  dsimp only
  rw [standard]
  split <;> rfl

theorem shown_failure_status (failure : Failure) :
    (¬ failure.BlamesClient ∧ (shown (.error failure)).status = 500) ∨
      failure.BlamesClient ∧ ((shown (.error failure)).status = 400 ∨ (shown (.error failure)).status = 404) := by
  cases failure with
  | billing error =>
    have status := sent_detail_status error.kind.status error.message
    rw [shown, status]
    by_cases blames : error.kind ≠ .internal ∧ Surrogate.isWhole error.message = true
    · refine .inr ⟨⟨error, rfl, blames⟩, ?_⟩
      rw [if_pos blames.2]
      cases kind : error.kind with
      | badRequest => exact .inl rfl
      | notFound => exact .inr rfl
      | internal => exact absurd kind blames.1
    · refine .inl ⟨fun told => ?_, ?_⟩
      · obtain ⟨_, same, told⟩ := told
        cases same
        exact blames told
      · split
        next whole =>
          have internal : error.kind = .internal := Decidable.not_not.mp fun outward => blames ⟨outward, whole⟩
          rw [internal]
          rfl
        next => rfl
  | _ => exact .inl ⟨fun ⟨_, same, _⟩ => (nomatch same), rfl⟩

theorem serve_ends (freshId : String) (asks : request.method ≠ "OPTIONS") (full : request.method ≠ "HEAD")
    (routed : (route request).settle.run (entered freshId request service) = (result, left)) :
    (serve freshId request).Ends service
      (fun response after => response.status = (shown result).status ∧ response.content = (shown result).content ∧
        left.Untouched after)
      fun _ _ => False := by
  obtain ⟨status, content⟩ := reply_eq freshId service.deployment.origins request result
  refine .of_ok (run_serve freshId asks full routed) ⟨status, content, ?_⟩
  unfold closed noted
  split <;> exact .of_same rfl rfl rfl rfl

end Server

open Endpoint Server

variable {freshId : String} {request : Request} {service after : Service} {response : Response}

/-- Whether all was done that an announcement asks for, or it was ignored on purpose, and the answer says which. -/
def Completed (service : Service) (freshId : String) (request : Request) (response : Response) (after : Service) : Prop :=
  ∃ event contents verified processed left, Verifies (entered freshId request service) request event verified ∧
    Payload.contents event = .ok contents ∧ Webhook.Finished contents verified processed left ∧ left.Untouched after ∧
    response.content = (receipt processed).content

/-- Whether the answer to an announcement claims no more than was done. -/
structure FailsSafe (service : Service) (freshId : String) (request : Request) (response : Response)
    (after : Service) : Prop where
  /-- When it is refused, or ignored as it says, nothing was done. -/
  untouched : response.status = 400 ∨ response.status = 503 ∨
    response.status = 200 ∧ response.content = (receipt false).content → service.Untouched after
  /-- A failure to act on a verified event is told as a failure of the service. -/
  told : ∀ event verified failure left, Verifies (entered freshId request service) request event verified →
    (acting event).run verified = (.error failure, left) → response.status = 500
  finished : response.status = 200 → Completed service freshId request response after

/-- Whether a service takes its own failure to act on a verified event for the client's: the event cannot be read, or what
it holds cannot be handled for a reason that blames the client. -/
def Misreports (service : Service) (request : Request) : Prop :=
  ∃ event verified failure left, Verifies service request event verified ∧
    (acting event).run verified = (.error failure, left) ∧
    (Payload.contents event = .error failure ∨ failure.BlamesClient)

/-- Only a dependency makes the service blame the client for an event that it verified. -/
theorem raises_of_blames {event : Value} {verified left : Service} {failure : Failure}
    (verifies : Verifies (entered freshId request service) request event verified)
    (failed : (acting event).run verified = (.error failure, left)) (blames : failure.BlamesClient) :
    service.Raises failure := by
  have trusted : verified.BlamelessBut service.Raises := verifies.trusted ((Service.BlamelessBut.raised service).of_core rfl)
  have fails : failure.BlamelessBut service.Raises := by
    cases read : Payload.contents event with
    | error unread =>
      rw [run_acting_of_unread read] at failed
      cases failed
      exact .inl ((Outcome.Blameless.contents event).failed read)
    | ok contents =>
      rw [run_acting_of_read read] at failed
      exact (Webhook.handle_finishes trusted contents).raised failure left failed
  exact fails.given_of_blames blames

/-- The ways in which an announcement is answered. -/
inductive Answered (service : Service) (freshId : String) (request : Request) (response : Response)
    (after : Service) : Prop where
  | refused (unverified : ∀ event verified, ¬ Verifies (entered freshId request service) request event verified)
      (untouched : service.Untouched after) (status : response.status ≠ 200)
  | unread {event verified failure} (verifies : Verifies (entered freshId request service) request event verified)
      (unread : Payload.contents event = .error failure) (status : response.status = 400)
  | failed {event contents verified failure left}
      (verifies : Verifies (entered freshId request service) request event verified)
      (read : Payload.contents event = .ok contents) (failed : (acting event).run verified = (.error failure, left))
      (status : response.status = (shown (.error failure)).status)
  | completed {event contents verified processed left}
      (verifies : Verifies (entered freshId request service) request event verified)
      (read : Payload.contents event = .ok contents) (acted : (acting event).run verified = (.ok processed, left))
      (finished : Webhook.Finished contents verified processed left) (opened : service.Untouched verified)
      (closed : left.Untouched after) (status : response.status = 200)
      (content : response.content = (receipt processed).content)

theorem announcement_answered (service : Service) (freshId : String) {request : Request} (posted : request.method = "POST")
    (addressed : request.path = "/api/v1/billing/webhook") :
    ∃ response after, (serve freshId request).run service = (.ok response, after) ∧
      Answered service freshId request response after := by
  have resolved : Endpoint.resolve request.method request.path = .ok .webhook := by
    rw [posted, addressed]
    rfl
  obtain ⟨asks, full⟩ := Endpoint.method_of_served resolved
  have entering : service.Untouched (entered freshId request service) := .of_same rfl rfl rfl rfl
  have routed : (route request).settle.run (entered freshId request service) =
      (takeAnnouncement request).settle.run (entered freshId request service) := settle_route resolved _
  by_cases accepted : ∃ contents verified, Accepts (entered freshId request service) request contents verified
  · obtain ⟨contents, verified, accepts⟩ := accepted
    obtain ⟨event, verifies, read⟩ := accepts.verifies
    have acted := run_acting_of_read read verified
    rw [takeAnnouncement_of_accepts accepts] at routed
    rcases ran : (Webhook.handle contents).run verified with ⟨failure | processed, left⟩ <;> rw [ran] at routed acted
    · obtain ⟨response, after, served, status, -, -⟩ := (serve_ends freshId asks full routed).exists_of_safe
      exact ⟨response, after, served, .failed verifies read acted status⟩
    · obtain ⟨response, after, served, status, content, closed⟩ := (serve_ends freshId asks full routed).exists_of_safe
      rw [shown_receipt] at status content
      have finished := (Webhook.handle_finishes (.raised verified) contents).returned processed left ran
      exact ⟨response, after, served,
        .completed verifies read acted finished (entering.trans accepts.opened) closed status content⟩
  · by_cases garbled : ∃ event verified, Verifies (entered freshId request service) request event verified
    · obtain ⟨event, verified, verifies⟩ := garbled
      cases unread : Payload.contents event with
      | ok contents => exact absurd ⟨contents, verified, verifies.accepts unread⟩ accepted
      | error failure =>
        obtain ⟨left, settled⟩ := takeAnnouncement_of_unread verifies unread
        rw [settled] at routed
        obtain ⟨response, after, served, status, -, -⟩ := (serve_ends freshId asks full routed).exists_of_safe
        refine ⟨response, after, served, .unread verifies unread (status.trans ?_)⟩
        have whole : Surrogate.isWhole "Invalid webhook signature" = true := Bool.or_eq_true_iff.mpr (.inr (by decide))
        rw [shown, Refusal.response, sent_detail_status, if_pos whole]
    · have refused : ∀ contents verified, ¬ Accepts (entered freshId request service) request contents verified :=
        fun contents verified accepts => accepted ⟨contents, verified, accepts⟩
      obtain ⟨refusal, left, settled, untouched, code⟩ := takeAnnouncement_of_refused refused
      rw [settled] at routed
      obtain ⟨response, after, served, status, -, closed⟩ := (serve_ends freshId asks full routed).exists_of_safe
      have failed : response.status ≠ 200 := by
        obtain own | failed := sent_status refusal.response
        · rw [status, shown, own]
          omega
        · rw [status, shown, failed]
          decide
      exact ⟨response, after, served, .refused (fun event verified verifies => garbled ⟨event, verified, verifies⟩)
        ((entering.trans untouched).trans closed) failed⟩

namespace Answered

theorem completed_of_success (answered : Answered service freshId request response after)
    (success : response.status = 200) : Completed service freshId request response after := by
  cases answered with
  | refused _ _ status => exact absurd success status
  | unread _ _ status => omega
  | @failed _ _ _ failure _ _ _ _ status =>
    obtain ⟨-, own⟩ | ⟨-, own⟩ := shown_failure_status failure <;> omega
  | completed verifies read _ finished _ closed _ content =>
    exact ⟨_, _, _, _, _, verifies, read, finished, closed, content⟩

theorem status_of_failed (answered : Answered service freshId request response after) {event : Value}
    {verified left : Service} {failure : Failure}
    (verifies : Verifies (entered freshId request service) request event verified)
    (failed : (acting event).run verified = (.error failure, left)) :
    Payload.contents event = .error failure ∧ response.status = 400 ∨
      (∃ contents, Payload.contents event = .ok contents) ∧ response.status = (shown (.error failure)).status := by
  -- Which event a message holds is decided by the service, so there is only one case that fits.
  cases answered with
  | refused unverified => exact (unverified event verified verifies).elim
  | unread verifiesToo unread status =>
    cases verifies.answered.symm.trans verifiesToo.answered
    cases (run_acting_of_unread unread verified).symm.trans failed
    exact .inl ⟨unread, status⟩
  | failed verifiesToo read failedToo status =>
    cases verifies.answered.symm.trans verifiesToo.answered
    cases failed.symm.trans failedToo
    exact .inr ⟨⟨_, read⟩, status⟩
  | completed verifiesToo _ acted =>
    cases verifies.answered.symm.trans verifiesToo.answered
    cases failed.symm.trans acted

theorem status_of_unread (answered : Answered service freshId request response after) {event : Value} {verified : Service}
    {failure : Failure} (verifies : Verifies (entered freshId request service) request event verified)
    (unread : Payload.contents event = .error failure) : response.status = 400 := by
  obtain ⟨-, status⟩ | ⟨⟨_, read⟩, -⟩ := answered.status_of_failed verifies (run_acting_of_unread unread verified)
  · exact status
  · cases unread.symm.trans read

theorem status_of_billing (answered : Answered service freshId request response after) {event : Value}
    {verified left : Service} {error : BillingError}
    (verifies : Verifies (entered freshId request service) request event verified)
    (failed : (acting event).run verified = (.error (.billing error), left)) :
    response.status = if Surrogate.isWhole error.message then error.kind.status else 500 := by
  obtain ⟨unread, -⟩ | ⟨-, status⟩ := answered.status_of_failed verifies failed
  · exact absurd unread (by cases event <;> exact nofun)
  · exact status.trans (sent_detail_status _ _)

theorem status_of_blames (answered : Answered service freshId request response after) {event : Value}
    {verified left : Service} {failure : Failure}
    (verifies : Verifies (entered freshId request service) request event verified)
    (failed : (acting event).run verified = (.error failure, left)) (blames : failure.BlamesClient) :
    response.status = 400 ∨ response.status = 404 := by
  obtain ⟨-, status⟩ | ⟨-, status⟩ := answered.status_of_failed verifies failed
  · exact .inl status
  · obtain ⟨owned, -⟩ | ⟨-, client⟩ := shown_failure_status failure
    · exact absurd blames owned
    · rwa [status]

theorem status_of_owned (answered : Answered service freshId request response after) {event : Value}
    {verified left : Service} {failure : Failure}
    (verifies : Verifies (entered freshId request service) request event verified)
    (failed : (acting event).run verified = (.error failure, left))
    (sound : ¬ Misreports (entered freshId request service) request) : response.status = 500 := by
  obtain ⟨unread, -⟩ | ⟨-, status⟩ := answered.status_of_failed verifies failed
  · exact absurd ⟨event, verified, failure, left, verifies, failed, .inl unread⟩ sound
  · obtain ⟨-, own⟩ | ⟨blames, -⟩ := shown_failure_status failure
    · exact status.trans own
    · exact absurd ⟨event, verified, failure, left, verifies, failed, .inr blames⟩ sound

theorem untouched_of_claim (answered : Answered service freshId request response after)
    (sound : ¬ Misreports (entered freshId request service) request)
    (claim : response.status = 400 ∨ response.status = 503 ∨
      response.status = 200 ∧ response.content = (receipt false).content) : service.Untouched after := by
  have owned : ∀ event verified failure left, Verifies (entered freshId request service) request event verified →
      (acting event).run verified = (.error failure, left) → response.status = 500 :=
    fun _ _ _ _ verifies failed => answered.status_of_owned verifies failed sound
  cases answered with
  | refused _ untouched => exact untouched
  | unread verifies unread =>
    have lost := owned _ _ _ _ verifies (run_acting_of_unread unread _)
    omega
  | failed verifies _ failed =>
    have lost := owned _ _ _ _ verifies failed
    omega
  | completed _ _ _ finished opened closed status content =>
    obtain refused | refused | ⟨-, ignored⟩ := claim
    · omega
    · omega
    · cases finished with
      | ignored _ untouched => exact (opened.trans untouched).trans closed
      | applied => cases content.symm.trans ignored

/-- The answer is to be trusted exactly if no failure to act on the event is taken for the client's. -/
theorem failsSafe_iff (answered : Answered service freshId request response after) :
    FailsSafe service freshId request response after ↔ ¬ Misreports (entered freshId request service) request := by
  constructor
  · rintro safe ⟨event, verified, failure, left, verifies, failed, why⟩
    have told : response.status = 500 := safe.told _ _ _ _ verifies failed
    have client : response.status = 400 ∨ response.status = 404 := by
      obtain unread | blames := why
      · exact .inl (answered.status_of_unread verifies unread)
      · exact answered.status_of_blames verifies failed blames
    omega
  · intro sound
    exact ⟨answered.untouched_of_claim sound,
      fun _ _ _ _ verifies failed => answered.status_of_owned verifies failed sound, answered.completed_of_success⟩

end Answered

theorem Endpoint.Verifies.run_acting {event : Value} {verified : Service}
    (verifies : Verifies service request event verified) :
    (eventIn request >>= Webhook.handle).run service = (acting event).run verified := by
  rw [run_bind, verifies.run_eventIn, acting, run_bind]
  rfl

/-- Whatever an announcement holds and whatever fails, it is answered, and with success only if all was done. The answer
claims no more than was done exactly if no failure to act on a verified event is taken for the client's. Of those failures
the ones to handle an event are raised by a dependency. -/
theorem announcement_fails_safe_iff (service : Service) (freshId : String) {request : Request}
    (posted : request.method = "POST") (addressed : request.path = "/api/v1/billing/webhook") :
    ∃ response after, (serve freshId request).run service = (.ok response, after) ∧
      (response.status = 200 → Completed service freshId request response after) ∧
      (FailsSafe service freshId request response after ↔ ¬ Misreports (entered freshId request service) request) ∧
      ∀ event verified failure left, Verifies (entered freshId request service) request event verified →
        (acting event).run verified = (.error failure, left) → failure.BlamesClient →
          service.Raises failure ∧ (response.status = 400 ∨ response.status = 404) := by
  obtain ⟨response, after, served, answered⟩ := announcement_answered service freshId posted addressed
  refine ⟨response, after, served, answered.completed_of_success, answered.failsSafe_iff, ?_⟩
  intro event verified failure left verifies failed blames
  exact ⟨raises_of_blames verifies failed blames, answered.status_of_blames verifies failed blames⟩

end Http

namespace Sample

/-- The shop, which takes the provider's messages and where saving the entitlement fails. -/
def openShop (failure : Failure) : Service :=
  { shop.plan (.store .saveEntitlement) [some failure] with
    deployment := { deployment with
      provider := { deployment.provider with webhookSecret := "secret" }
      available := { deployment.available with provider := true, billing := true } } }

def message (body : String) : Http.Request where
  method := "POST"
  path := "/api/v1/billing/webhook"
  headers := [("stripe-signature", "t=1")]
  body := body

def update : Http.Request := message ("\x7b\"type\":\"customer.subscription.updated\",\"data\":\x7b\"object\":" ++
  "\x7b\"id\":\"sub_1\",\"customer\":\"cus_1\"\x7d\x7d\x7d")

def away : Failure := .connection "store is away"

def refusal : Failure := .billing .subscriptionMissing

theorem blameless_of_raises {failure : Failure} (raised : (openShop away).Raises failure) : failure.Blameless := by
  cases raised with
  | planned point listed =>
    change some failure ∈ if point = .store .saveEntitlement then [some away] else [] at listed
    split at listed
    next =>
      cases List.mem_singleton.mp listed
      trivial
    next => cases listed
  | answered served request refused =>
    exact (Outcome.Blameless.answer (tables "sub_1" "active" "prod_basic") served request).failed refused

end Sample

namespace Http

open Endpoint Server

/-- The update is not lost: it is answered so that the provider announces it again. -/
theorem announcement_fails_safe_save :
    ∃ response after, (serve "r1" Sample.update).run (Sample.openShop Sample.away) = (.ok response, after) ∧
      FailsSafe (Sample.openShop Sample.away) "r1" Sample.update response after := by
  obtain ⟨response, after, served, -, safe, raises⟩ :=
    announcement_fails_safe_iff (Sample.openShop Sample.away) "r1" (rfl : Sample.update.method = "POST") rfl
  refine ⟨response, after, served, safe.mpr ?_⟩
  rintro ⟨event, verified, failure, left, verifies, failed, unread | blames⟩
  · have read : ((eventIn Sample.update).run (entered "r1" Sample.update (Sample.openShop Sample.away))).1.isOk = true := by
      decide +kernel
    rw [verifies.run_eventIn, unread] at read
    cases read
  · have raised := (raises event verified failure left verifies failed blames).1
    obtain ⟨error, rfl, outward, -⟩ := blames
    exact outward (Sample.blameless_of_raises raised)

theorem exists_verifies {failure : Failure} {body : String}
    (vouched : ((Action.ask (.openEvent body (signatureOf (Sample.message body)) "secret" 0)).run
      (entered "r1" (Sample.message body) (Sample.openShop failure))).1.isOk = true) :
    ∃ event verified, Verifies (entered "r1" (Sample.message body) (Sample.openShop failure)) (Sample.message body) event
      verified := by
  rcases asked : (Action.ask (.openEvent body (signatureOf (Sample.message body)) "secret" 0)).run
    (entered "r1" (Sample.message body) (Sample.openShop failure)) with ⟨lost | event, verified⟩ <;> rw [asked] at vouched
  · cases vouched
  · have secret : "secret" ≠ "" := by decide
    -- The signature is that of any message.
    have signed : (signatureOf (Sample.message "")).truthy = true := by decide +kernel
    exact ⟨event, verified, rfl, rfl, secret, signed, asked⟩

/-- A store that finds a record missing when an entitlement is saved makes the service answer an update as if its sender had
asked for what is not there. So does an event that is verified but is no record: its sender is told that the signature is
invalid. -/
theorem announcement_blames_client :
    (∃ response after, (serve "r1" Sample.update).run (Sample.openShop Sample.refusal) = (.ok response, after) ∧
      response.status = 404 ∧ ¬ FailsSafe (Sample.openShop Sample.refusal) "r1" Sample.update response after) ∧
    ∃ response after, (serve "r1" (Sample.message "[]")).run (Sample.openShop Sample.away) = (.ok response, after) ∧
      response.status = 400 ∧ ¬ FailsSafe (Sample.openShop Sample.away) "r1" (Sample.message "[]") response after := by
  constructor
  · obtain ⟨response, after, served, answered⟩ :=
      announcement_answered (Sample.openShop Sample.refusal) "r1" (rfl : Sample.update.method = "POST") rfl
    obtain ⟨event, verified, verifies⟩ : ∃ event verified, Verifies
        (entered "r1" Sample.update (Sample.openShop Sample.refusal)) Sample.update event verified :=
      exists_verifies (by decide +kernel)
    have refused : ((eventIn Sample.update >>= Webhook.handle).run
        (entered "r1" Sample.update (Sample.openShop Sample.refusal))).1.told? =
        some (.notFound, "No active subscription for this user.") := by
      decide +kernel
    rw [verifies.run_acting] at refused
    obtain ⟨error, failed, kind, message⟩ := Outcome.told?_eq_some refused
    have whole : Surrogate.isWhole error.message = true := message ▸ Bool.or_eq_true_iff.mpr (.inr (by decide))
    have status : response.status = 404 := by
      rw [answered.status_of_billing verifies (Prod.ext failed rfl), if_pos whole, kind]
      rfl
    refine ⟨response, after, served, status, fun safe => ?_⟩
    have told := safe.told _ _ _ _ verifies (Prod.ext failed rfl)
    omega
  · obtain ⟨response, after, served, answered⟩ :=
      announcement_answered (Sample.openShop Sample.away) "r1" (rfl : (Sample.message "[]").method = "POST") rfl
    obtain ⟨event, verified, verifies⟩ : ∃ event verified, Verifies
        (entered "r1" (Sample.message "[]") (Sample.openShop Sample.away)) (Sample.message "[]") event verified :=
      exists_verifies (by decide +kernel)
    have garbled : ((eventIn (Sample.message "[]")).run
        (entered "r1" (Sample.message "[]") (Sample.openShop Sample.away))).1.isOk = false := by
      decide +kernel
    rw [verifies.run_eventIn] at garbled
    cases unread : Payload.contents event with
    | ok contents =>
      rw [unread] at garbled
      cases garbled
    | error failure =>
      have status := answered.status_of_unread verifies unread
      refine ⟨response, after, served, status, fun safe => ?_⟩
      have told := safe.told _ _ _ _ verifies (run_acting_of_unread unread verified)
      omega

end Http

end PaidAccess
