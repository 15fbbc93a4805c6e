import PaidAccess.Http.Address
import PaidAccess.Http.Host
import PaidAccess.Http.Message
import PaidAccess.Failure
/-!
From the address that a client calls to the path that the service sees. Every host is served. Scheme,
host, query and fragment are checked and left out, segments of dots are resolved, and escapes of ASCII
characters are decoded. Other escapes are left as they are, as no path of the service holds such
characters.
-/

namespace PaidAccess.Http

structure Target where
  path : String
  /-- Whether the address names a user to sign in, for whom no token is sent. -/
  namesUser : Bool

namespace Target

inductive Fault where
  | tooLong
  | control (c : Char) (position : Nat)
  | host (kind : HostKind) (text : String)
  | port (text : String)
  | doubleSlash
  | colon
  /-- A part is too long once it is escaped. -/
  | longPart (name : String)

def hostName : HostKind → String
  | .four => "IPv4 address"
  | .six => "IPv6 address"
  | .name => "IDNA hostname"

def Fault.message : Fault → String
  | .tooLong => "URL too long"
  | .control c position =>
      "Invalid non-printable ASCII character in URL, " ++ Value.quoted (String.singleton c)
        ++ s!" at position {position}."
  | .host kind text => "Invalid " ++ hostName kind ++ ": " ++ Value.quoted text
  | .port text => "Invalid port: " ++ Value.quoted text
  | .doubleSlash => "Relative URLs cannot have a path starting with '//'"
  | .colon => "Relative URLs cannot have a path starting with ':'"
  | .longPart name => "URL component '" ++ name ++ "' too long"

def Fault.failure (fault : Fault) : Failure := .unreachable fault.message

def longest : Nat := 65536

def isControl (code : Nat) : Bool := code < 0x20 || code == 0x7F

def checkText (codes : List Nat) : Outcome Unit :=
  if longest < codes.length then throw Fault.tooLong.failure
  else
    match codes.findIdx? isControl with
    | some position => throw (Fault.control (Char.ofNat (codes[position]?.getD 0)) position).failure
    | none => pure ()

/-- Checks that a part of an address can be written. Characters are written one by one, so each is the
first of its text. -/
def checkPart (part : List Char) : Outcome Unit :=
  match (Surrogate.codePoints part).find? Surrogate.isHalf with
  | some code => throw (.unencodable ⟨.unicode, code, 0, 0⟩)
  | none => pure ()

def checkAuthority (address : Address) : Outcome Unit := do
  checkPart address.user
  if let some kind := Host.objection? address.host then
    throw (Fault.host kind (String.ofList address.host)).failure
  if !address.port.isEmpty && !Address.isPort address.port then
    throw (Fault.port (String.ofList address.port)).failure

def checkBeginning (address : Address) : Outcome Unit :=
  if !address.scheme.isEmpty || address.hasAuthority then pure ()
  else if ['/', '/'].isPrefixOf address.path then throw Fault.doubleSlash.failure
  else if address.path.head? = some ':' then throw Fault.colon.failure
  else pure ()

/-- Removes a segment from a path, of which the last comes first. The beginning of an absolute path
stays. -/
def goUp : List (List Char) → List (List Char)
  | [] => []
  | [[]] => [[]]
  | _ :: rest => rest

def resolved : List (List Char) → List (List Char) → List (List Char)
  | found, [] => found
  | found, segment :: rest =>
      if segment = ['.'] then resolved found rest
      else if segment = ['.', '.'] then resolved (goUp found) rest
      else resolved (segment :: found) rest

def withoutDots (path : List Char) : List Char :=
  ['/'].intercalate (resolved [] (parts (· == '/') path)).reverse

def decoded : List Char → List Char
  | '%' :: a :: b :: rest =>
      match Json.hexDigit? a, Json.hexDigit? b with
      | some high, some low =>
          if high < 8 then Char.ofNat (high * 16 + low) :: decoded rest
          else '%' :: decoded (a :: b :: rest)
      | _, _ => '%' :: decoded (a :: b :: rest)
  | c :: rest => c :: decoded rest
  | [] => []

def rooted (path : List Char) : List Char := if path.isEmpty then ['/'] else path

def escapedInQuery : List Char := [' ', '"', '#', '<', '>']

def escapedInPath : List Char := escapedInQuery ++ ['?', '\x60', '\x7b', '\x7d']

def escapedLength (escaped : List Char) (part : List Char) : Nat :=
  (Surrogate.codePoints part).foldl (fun length code =>
    let c := Char.ofNat code
    length + if code < 128 && !escaped.contains c then 1 else 3 * c.utf8Size) 0

/-- The path and the query of an address that is meant for the service. They are put together anew, so
both have to be short enough again. -/
def onService (path : List Char) (query : Option (List Char)) : Outcome (List Char) := do
  let path := '/' :: path.dropWhile (· == '/')
  if longest < escapedLength escapedInPath path then throw (Fault.longPart "path").failure
  if longest < escapedLength escapedInQuery (query.getD []) then throw (Fault.longPart "query").failure
  return withoutDots path

def ofAddress (text : String) : Outcome Target := do
  checkText (Surrogate.codePoints text.toList)
  let address := Address.ofText text.toList
  checkAuthority address
  checkBeginning address
  let isPlaced := !address.scheme.isEmpty || address.hasAuthority
  let path := if isPlaced then withoutDots address.path else address.path
  checkPart path
  checkPart (address.query.getD [])
  checkPart address.fragment
  let path ← if address.isAbsolute then pure path else onService path address.query
  return ⟨String.ofList (decoded (rooted path)),
    address.isAbsolute && !address.user.isEmpty && address.user != [':']⟩

def headers (target : Target) (given : List Header) : List Header :=
  if target.namesUser then given.filter fun header => header.1.toLower != "authorization" else given

end Target

end PaidAccess.Http
