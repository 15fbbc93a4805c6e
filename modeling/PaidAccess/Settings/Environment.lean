import PaidAccess.Settings.Basic
import PaidAccess.Json.Reader
import PaidAccess.Failure
/-!
Settings from environment variables. Names are taken in any case; two underscores lead into a group.
A group or a list may also be given as a whole in JSON, and variables inside the group override it.
-/

namespace PaidAccess.Environment

/-- A letter in lower case. Besides the capitals of ASCII, the sign of the kelvin becomes one of its small
letters; no other letter does. -/
def lowerLetter (c : Char) : Char := if c = '\u212A' then 'k' else c.toLower

def lowerName (name : String) : String := name.map lowerLetter

/-- The variables, by lower-case name. Of two names that differ in case only the later value counts. -/
def byLowerName (environment : List (String × String)) : Fields :=
  environment.foldl (fun found entry => found.set (lowerName entry.1) (.text entry.2)) []

def splitName : List Char → List Char → List String
  | found, [] => [String.ofList found.reverse]
  | found, '_' :: '_' :: rest => String.ofList found.reverse :: splitName [] rest
  | found, c :: rest => splitName (c :: found) rest

/-- Sets a value at the end of a path of nested records. A path through something that is not a record
is left alone. -/
def setPath : List String → Value → Fields → Fields
  | [], _, fields => fields
  | [name], value, fields => fields.set name value
  | name :: path, value, fields =>
      match fields.find? name with
      | some (.record inner) => fields.set name (.record (setPath path value inner))
      | some _ => fields
      | none => fields.set name (.record (setPath path value []))

def nested (group : String) (found : Fields) : Fields :=
  found.foldl (fun fields entry =>
    match Json.after? (group ++ "__").toList entry.1.toList with
    | some rest => setPath (splitName [] rest) entry.2 fields
    | none => fields) []

mutual

def override : Value → Value → Value
  | .record base, .record later => .record (overrideFields base later)
  | _, later => later

def overrideFields (base : Fields) : List (String × Value) → Fields
  | [] => base
  | (name, value) :: rest =>
      overrideFields (base.set name
        (match base.find? name with
        | some old => override old value
        | none => value)) rest

end

def fieldNames : String → List String
  | "stripe" =>
      ["secret_key", "webhook_secret", "price_artist_monthly", "price_artist_yearly",
        "price_studio_monthly", "price_studio_yearly", "frontend_url", "checkout_success_url",
        "checkout_cancel_url", "portal_return_url"]
  | "billing" =>
      ["environment", "run_stripe_simulation", "simulation_delay_seconds",
        "webhook_tolerance_seconds", "daily_reset_enabled", "daily_reset_hour_utc"]
  | _ => []

def canonicalNames (group : String) (fields : Fields) : Fields :=
  fields.foldl (fun found field =>
    let name := ((fieldNames group).find? (· == lowerName field.1)).getD field.1
    found.set name field.2) []

def unreadable (name : String) : Json.Fault → Failure
  | .tooDeep isList => .exhausted isList
  | _ => .misconfigured s!"error parsing value for field \"{name}\" from source \"EnvSettingsSource\""

/-- A group or a list: its JSON, overridden by the variables inside it. Null counts as absent. -/
def structured (name : String) (found : Fields) : Outcome (Option Value) :=
  match found.find? name with
  | some (.text content) =>
      match Json.read content with
      | .error fault => .error (unreadable name fault)
      | .ok .null => .ok none
      | .ok (.record base) =>
          .ok (some (.record (canonicalNames name (overrideFields base (nested name found)))))
      | .ok value => .ok (some value)
  | _ =>
      match nested name found with
      | [] => .ok none
      | fields => .ok (some (.record (canonicalNames name fields)))

def collect (name : String) (value : Option Value) (fields : Fields) : Fields :=
  match value with
  | some value => fields ++ [(name, value)]
  | none => fields

/-- Whether a code point stands for a byte that is no character. Such a half of a surrogate pair can be
written, unless it follows one that cannot. -/
def isByte (code : Nat) : Bool := 0xDC80 ≤ code && code < 0xDD00

def text (content : String) : Outcome String :=
  let codes := Surrogate.codePoints content.toList
  match codes.findIdx? fun code => Surrogate.isHalf code && !isByte code with
  | none => .ok content
  | some first => .error (.unencodable (Charset.unicode.objectionAt codes first))

def entry? (name : String) (value : Value) : Outcome (String × String) := do
  let name ← text name
  match value with
  | .text content => do
      let content ← text content
      if name.contains '\x00' || content.contains '\x00' then throw (.rejected "embedded null byte")
      if name.contains '=' then throw (.rejected "illegal environment variable name")
      if name = "" then throw (.platform "[Errno 22] Invalid argument")
      return (name, content)
  | _ => throw .mismatch

def settings (environment : List (String × String)) : Outcome Settings := do
  let found := byLowerName environment
  let origins ← structured "cors_origins" found
  let provider ← structured "stripe" found
  let billing ← structured "billing" found
  let plain := ["supabase_url", "supabase_secret_key", "debug"].foldl
    (fun fields name => collect name (found.find? name) fields) []
  let fields := collect "billing" billing (collect "stripe" provider (collect "cors_origins" origins plain))
  (Settings.ofFields fields).outcome

end PaidAccess.Environment
