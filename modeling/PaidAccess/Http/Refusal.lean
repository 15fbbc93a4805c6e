import PaidAccess.Http.Message
import PaidAccess.Service.Action
/-!
Refusals of requests. A refusal is known before any billing is done, and is answered with a status and
an explanation of its own.
-/

namespace PaidAccess.Http

/-- A part of the service that an endpoint cannot do without. -/
inductive Part where
  | identity
  | billing
  | provider
  | usage
  deriving DecidableEq

namespace Part

def isAvailable (available : Availability) : Part → Bool
  | .identity => available.identity
  | .billing => available.billing
  | .provider => available.provider
  | .usage => available.usage

def absence : Part → String
  | .identity => "Authentication service unavailable"
  | .billing => "Billing service unavailable"
  | .provider => "Stripe is not configured"
  | .usage => "Usage tracking unavailable"

end Part

inductive Refusal where
  | unknownPath
  /-- The path is known, for another method. -/
  | wrongMethod (allowed : String)
  /-- The same path without its final slashes is known. -/
  | movedTo (path : String)
  | unauthenticated
  | tokenInvalid
  | unavailable (part : Part)
  | malformed (issues : List Issue)
  /-- The body is JSON that is not read, be it for its encoding, its depth or its integers. -/
  | unreadable
  /-- A message that is not the provider's, or not acceptable. -/
  | unverified (reason : String)

namespace Refusal

def stepValue : PathStep → Value
  | .field name => .text name
  | .index position => .int position

def issueValue (issue : Issue) : Value :=
  .list [.list (issue.path.map stepValue), .text issue.kind.name]

def response : Refusal → Response
  | .unknownPath => .detail 404 (.text "Not Found")
  | .wrongMethod allowed =>
      (Response.detail 405 (.text "Method Not Allowed")).withHeaders [("allow", allowed)]
  | .movedTo path => (Response.ofText 307 "").withHeaders [("location", path)]
  | .unauthenticated =>
      (Response.detail 401 (.text "Not authenticated")).withHeaders [("www-authenticate", "Bearer")]
  | .tokenInvalid => .detail 401 (.text "Invalid or expired token")
  | .unavailable part => .detail 503 (.text part.absence)
  | .malformed issues => .detail 422 (.list (issues.map issueValue))
  | .unreadable => .detail 400 (.text "There was an error parsing the body")
  | .unverified reason => .detail 400 (.text reason)

end Refusal

/-- A computation on a running service that ends early when the request is refused. -/
abbrev Handling := ExceptT Refusal Action

namespace Handling

variable {α : Type}

def settle (handling : Handling α) : Action (Except Refusal α) := ExceptT.run handling

def act (action : Action α) : Handling α := ExceptT.lift action

def decided (result : Except Refusal α) : Handling α := ExceptT.mk (pure result)

def turnDown (refusal : Refusal) : Handling α := decided (.error refusal)

def demand (part : Part) : Handling Unit := do
  if !part.isAvailable (← act (Action.read (·.deployment.available))) then
    turnDown (.unavailable part)

end Handling

end PaidAccess.Http
