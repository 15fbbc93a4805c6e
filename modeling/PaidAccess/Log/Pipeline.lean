import PaidAccess.Log.Entry
/-!
From an entry to the line that is written. Credentials are masked, wherever they stand at the top of
an entry, and the name of the deployment is added unless the entry has one of its own.
-/

namespace PaidAccess.Log

def sensitiveNames : List String :=
  ["secret_key", "webhook_secret", "stripe_signature", "signature", "authorization", "token"]

def secretBeginnings : List String := ["sk_live_", "sk_test_", "rk_live_", "rk_test_", "whsec_"]

def mask : Value := .text "[redacted]"

def isSecret : Value → Bool
  | .text content => secretBeginnings.any fun start => start.toList.isPrefixOf content.toList
  | _ => false

def redactedValue (name : String) (value : Value) : Value :=
  if (sensitiveNames.contains name && value.truthy) || isSecret value then mask else value

def redact (fields : Fields) : Fields :=
  fields.map fun field => (field.1, redactedValue field.1 field.2)

def stampEnvironment (environment : Value) (fields : Fields) : Fields :=
  if !environment.truthy || (fields.find? "environment").isSome then fields
  else fields ++ [("environment", environment)]

/-- The fields that are in force for an entry: those of the call override the bound ones, and those
override the context. -/
def gather (context bound call : Fields) : Fields := (context.merge bound).merge call

/-- Fields that belong to the log itself: the time of writing and the account of a failure. No entry
can give them. -/
def reservedNames : List String := ["timestamp", "exc_info"]

def dropReserved (fields : Fields) : Fields :=
  fields.filter fun field => !reservedNames.contains field.1

/-- The fields of an entry with what happened, which takes the place of a field of that name. Null says
nothing about what happened. -/
def withEvent (event : Value) (fields : Fields) : Fields :=
  match event with
  | .null => fields
  | event => fields.set "event" event

/-- The line for an entry, without its time: its fields with the event and the level, masked and
stamped. -/
def line (environment : Value) (level : Level) (event : Value) (fields : Fields) : Fields :=
  stampEnvironment environment
    (redact ((withEvent event (dropReserved fields)).set "level" (.text level.name)))

structure Pipeline where
  debug : Bool
  /-- The name of the deployment, or null. -/
  environment : Value

namespace Pipeline

def threshold (pipeline : Pipeline) : Level := if pipeline.debug then .debug else .info

def providerThreshold (pipeline : Pipeline) : Level := if pipeline.debug then .info else .warning

def emit (pipeline : Pipeline) (level : Level) (event : Value) (context bound call : Fields) :
    List Fields :=
  if level.weight < pipeline.threshold.weight then []
  else [line pipeline.environment level event (gather context bound call)]

end Pipeline

end PaidAccess.Log
