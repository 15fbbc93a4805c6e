import PaidAccess.Http.Endpoint
import PaidAccess.Http.CrossOrigin
/-!
Answering requests. Every request has an id, its own or a fresh one, which its log entries and its
answer carry. Billing errors are answered with their message; any other failure is answered without a
word about it.
-/

namespace PaidAccess.Http.Server

open PaidAccess.Action

/-- The entry about a billing error. Only the service's own failures come with their context. -/
def errorEntry (path : String) (error : BillingError) : LogEntry :=
  match error.kind with
  | .internal =>
      .of .error "billing_request_failed"
        (Fields.merge
          [("path", .text path), ("error", .text error.message), ("error_kind", .text error.kind.name)]
          error.context)
  | kind =>
      .of .info "billing_request_rejected"
        [("path", .text path), ("status_code", .int kind.status), ("error", .text error.message)]

def explain (path : String) : Failure → Action Response
  | .billing error => do
      log (errorEntry path error)
      return .detail error.kind.status (.text error.message)
  | failure => fail failure

def route (request : Request) : Handling Response := do
  let endpoint ← Handling.decided (Endpoint.resolve request.method request.path)
  endpoint.serve request

def sendable (response : Response) : Action Response :=
  match response.content with
  | .json value => if Json.isStandard value then pure response else fail .unsendable
  | .text _ => pure response

def answer (request : Request) : Action Response := do
  let response ← recover
    (do
      match ← (route request).settle with
      | .ok response => return response
      | .error refusal => return refusal.response)
    (explain request.shownPath)
  sendable response

def contextOf (id : String) (request : Request) : Fields :=
  [("request_id", .text id), ("method", .text request.method), ("path", .text request.shownPath)]

def enter (context : Fields) : Action Unit := update fun service => { service with context := context }

def answerAs (id : String) (request : Request) : Action Response := do
  enter (contextOf id request)
  let response ← answer request
  let complete := response.withHeaders [("x-request-id", id)]
  return if request.method = "HEAD" then complete.withoutContent else complete

def unexplained : Response := .ofText 500 "Internal Server Error"

/-- Answers a request, which gets a fresh id unless it brings one. -/
def serve (freshId : String) (request : Request) : Action Response := do
  let origins ← read (·.deployment.origins)
  match CrossOrigin.preflight? origins request with
  | some response => return response
  | none => do
      let id := (present? (request.header? "x-request-id")).getD freshId
      let response ← recover
        (do
          let response ← answerAs id request
          return response.withHeaders (CrossOrigin.headers origins request))
        fun _ => return unexplained
      enter []
      return response

end PaidAccess.Http.Server
