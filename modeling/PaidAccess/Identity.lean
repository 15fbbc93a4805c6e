import PaidAccess.Service.Action
/-!
Who a token stands for. The identity service is asked each time; what it refuses is no failure, only a
token that stands for nobody.
-/

namespace PaidAccess.Identity

open PaidAccess.Action

/-- The user that an answer of the identity service describes. An id of any kind is taken as its text;
an email has to be one. -/
def userOf (id email : Value) : Outcome AuthenticatedUser :=
  (AuthenticatedUser.mk id.display
    <$> (Checked.nullable Lenient.text email).within (.field "email")).outcome

/-- Notes that the identity service failed to answer, and that the token stands for nobody. -/
def unverified (failure : Failure) : Action (Option AuthenticatedUser) := do
  log (.about .warning "auth_token_verification_failed" [] failure)
  return none

def verify (token : String) : Action (Option AuthenticatedUser) := do
  match (← read (·.deployment.tokens.get? token)).getD .refused with
  | .user id email => do
      let user ← lift (userOf id email)
      return some user
  | .noUser | .noResponse => return none
  | .nameless => unverified .noSuchKey
  | .refused => unverified (.runtime "Token expired")

end PaidAccess.Identity
