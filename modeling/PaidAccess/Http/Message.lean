import PaidAccess.Json.Encoding
import PaidAccess.Text.Blank
/-!
Requests and responses over HTTP. Names of headers are compared without regard to case.
-/

namespace PaidAccess.Http

abbrev Header := String × String

structure Request where
  method : String
  path : String
  headers : List Header
  body : String

inductive Content where
  | json (value : Value)
  | text (content : String)

structure Response where
  status : Nat
  headers : List Header
  content : Content

namespace Request

def shownPath (request : Request) : String :=
  String.ofList (request.path.toList.filter fun c => c != '\t' && c != '\n' && c != '\r')

/-- The value of a header, whose name is given in lower case. -/
def header? (name : String) (request : Request) : Option String :=
  (request.headers.find? fun header => header.1.toLower == name).map (·.2)

def mediaType (contentType : String) : String :=
  let type := contentType.toList.takeWhile (· != ';')
  (String.ofList (Blank.trim Blank.isWhiteOrSeparator type)).toLower

def isJsonType (mediaType : String) : Bool :=
  match mediaType.toList.span (· != '/') with
  | (kind, '/' :: subtype) =>
      kind == "application".toList && !subtype.contains '/' &&
        (subtype == "json".toList || "+json".toList.isSuffixOf subtype)
  | _ => false

def declaresJson (request : Request) : Bool :=
  match request.header? "content-type" with
  | some contentType => isJsonType (mediaType contentType)
  | none => false

/-- The body as a value: null when there is none, a text when it is not declared to be JSON, and
a fault when it is declared to be JSON but cannot be read. -/
def value (request : Request) : Except Json.Fault Value :=
  if request.body = "" then .ok .null
  else if request.declaresJson then Json.readBytes request.body
  else .ok (.text request.body)

end Request

namespace Response

def ofValue (status : Nat) (value : Value) : Response := ⟨status, [], .json value⟩

def ofText (status : Nat) (content : String) : Response := ⟨status, [], .text content⟩

def detail (status : Nat) (explanation : Value) : Response :=
  ofValue status (.record [("detail", explanation)])

def withHeaders (headers : List Header) (response : Response) : Response :=
  { response with headers := response.headers ++ headers }

def withoutContent (response : Response) : Response := { response with content := .text "" }

end Response

end PaidAccess.Http
