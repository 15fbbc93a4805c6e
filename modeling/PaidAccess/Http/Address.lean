import PaidAccess.Text.Digit
import PaidAccess.Text.Parts
import PaidAccess.Text.Blank
import PaidAccess.Validation.Numeral
/-!
The parts of the addresses that clients call.
-/

namespace PaidAccess.Http

/-- An address. Parts that are missing are empty, except for the query, which can be there and empty. -/
structure Address where
  scheme : List Char
  /-- A user's name and perhaps a password. -/
  user : List Char
  host : List Char
  port : List Char
  path : List Char
  query : Option (List Char)
  fragment : List Char

namespace Address

def isSchemeChar (c : Char) : Bool := c.isAlphanum || c == '+' || c == '.' || c == '-'

def splitScheme (address : List Char) : List Char × List Char :=
  match address.span isSchemeChar with
  | ([], ':' :: rest) => ([], rest)
  | (c :: scheme, ':' :: rest) => if c.isAlpha then (c :: scheme, rest) else ([], address)
  | _ => ([], address)

def splitAuthority : List Char → List Char × List Char
  | '/' :: '/' :: rest => rest.span fun c => c != '/' && c != '?' && c != '#'
  | address => ([], address)

def splitHost (authority : List Char) : List Char × List Char :=
  let (host, rest) :=
    if authority.head? = some '[' && authority.contains ']' then
      let (host, rest) := splitAtLast ']' authority
      (host ++ [']'], rest)
    else authority.span (· != ':')
  (host, if rest.head? = some ':' then rest.drop 1 else rest)

def query? : List Char → Option (List Char)
  | '?' :: rest => some (rest.takeWhile (· != '#'))
  | _ => none

def ofText (text : List Char) : Address :=
  let (scheme, rest) := splitScheme text
  let (authority, rest) := splitAuthority rest
  let (user, authority) := splitAtLast '@' authority
  let (host, port) := splitHost authority
  let (path, rest) := rest.span fun c => c != '?' && c != '#'
  ⟨scheme, user, host, port, path, query? rest, (rest.dropWhile (· != '#')).drop 1⟩

/-- Whether a text is a port: an integer in the digits of any script, perhaps with a sign, blanks around
it and single underscores. No port is too large. -/
def isPort (text : List Char) : Bool :=
  match Numeral.withoutUnderscores? (Numeral.splitSign (Blank.trim Blank.isWhite text)).2 with
  | some digits => digits.length ≤ Numeral.longest && digits.all fun digit => (Digit.value? digit).isSome
  | none => false

def hasAuthority (address : Address) : Bool :=
  !address.user.isEmpty || !address.host.isEmpty || !address.port.isEmpty

/-- Whether an address says all that it takes to go there. Any other one is meant for the service. -/
def isAbsolute (address : Address) : Bool := !address.scheme.isEmpty && !address.host.isEmpty

end Address

end PaidAccess.Http
