import PaidAccess.Http.Refusal
import PaidAccess.Identity
/-!
Signing in with a bearer token. Some endpoints insist on it; others also serve guests, but a token that
is sent has to be valid there too.
-/

namespace PaidAccess.Http.Bearer

open Handling

/-- The token in an authorization header: what follows the scheme, unless it is blank. -/
def token? (authorization : String) : Option String :=
  let scheme := authorization.toList.takeWhile (· != ' ')
  let rest := authorization.toList.dropWhile (· != ' ')
  if (String.ofList scheme).toLower == "bearer" then
    present? (some (String.ofList (Blank.trim Blank.isWhiteOrSeparator rest)))
  else none

def ofRequest? (request : Request) : Option String := (request.header? "authorization").bind token?

def signIn (token : String) : Handling AuthenticatedUser := do
  demand .identity
  match ← act (Identity.verify token) with
  | some user => return user
  | none => turnDown .tokenInvalid

def user (request : Request) : Handling AuthenticatedUser :=
  match ofRequest? request with
  | some token => signIn token
  | none => turnDown .unauthenticated

def userOrGuest (request : Request) : Handling (Option AuthenticatedUser) :=
  match ofRequest? request with
  | some token => some <$> signIn token
  | none => pure none

end PaidAccess.Http.Bearer
