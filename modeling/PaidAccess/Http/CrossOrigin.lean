import PaidAccess.Http.Message
/-!
Requests of pages from other origins. Browsers ask first whether a request is allowed; that question is
answered here and reaches no endpoint.
-/

namespace PaidAccess.Http.CrossOrigin

def methods : List String := ["DELETE", "GET", "HEAD", "OPTIONS", "PATCH", "POST", "PUT", "QUERY"]

def allowsAll (origins : List String) : Bool := origins.contains "*"

def allows (origins : List String) (origin : String) : Bool :=
  allowsAll origins || origins.contains origin

def askedMethod? (request : Request) : Option String :=
  if request.method = "OPTIONS" then request.header? "access-control-request-method" else none

def asksForPrivateNetwork (request : Request) : Bool :=
  (request.header? "access-control-request-private-network").isSome

/-- What is wrong with the request that a browser asks about. Pages have no business with services in a
private network. -/
def objections (origins : List String) (origin method : String) (request : Request) : List String :=
  (if allows origins origin then [] else ["origin"])
    ++ (if methods.contains method then [] else ["method"])
    ++ (if asksForPrivateNetwork request then ["private-network"] else [])

def standing : List Header :=
  [("access-control-allow-methods", ", ".intercalate methods), ("access-control-max-age", "600"),
    ("access-control-allow-credentials", "true")]

def headerOf (name : String) : Option String → List Header
  | some value => [(name, value)]
  | none => []

def admitted (origins : List String) (origin : String) : Option String :=
  if allows origins origin then some origin else none

def preflight? (origins : List String) (request : Request) : Option Response :=
  match request.header? "origin", askedMethod? request with
  | some origin, some method =>
      let headers := standing ++ headerOf "access-control-allow-origin" (admitted origins origin)
        ++ headerOf "access-control-allow-headers" (request.header? "access-control-request-headers")
      match objections origins origin method request with
      | [] => some ((Response.ofText 200 "OK").withHeaders headers)
      | found =>
          some ((Response.ofText 400 ("Disallowed CORS " ++ ", ".intercalate found)).withHeaders headers)
  | _, _ => none

/-- The origin that an answer names. When all are allowed, the page's own is named only to one that
sends cookies. -/
def named (origins : List String) (origin : String) (request : Request) : Option String :=
  if allowsAll origins then
    if (request.header? "cookie").isSome then some origin else some "*"
  else admitted origins origin

def headers (origins : List String) (request : Request) : List Header :=
  match request.header? "origin" with
  | some origin =>
      ("access-control-allow-credentials", "true")
        :: headerOf "access-control-allow-origin" (named origins origin request)
  | none => []

end PaidAccess.Http.CrossOrigin
