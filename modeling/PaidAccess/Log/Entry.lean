import PaidAccess.Failure
/-!
Log entries: what happened, how serious it is, and the facts that belong to it.
-/

namespace PaidAccess

inductive Level where
  | debug
  | info
  | warning
  | error
  | critical
  deriving DecidableEq

namespace Level

def name : Level → String
  | .debug => "debug"
  | .info => "info"
  | .warning => "warning"
  | .error => "error"
  | .critical => "critical"

def weight : Level → Nat
  | .debug => 10
  | .info => 20
  | .warning => 30
  | .error => 40
  | .critical => 50

end Level

/-- A log entry. The failure that an entry reports is kept as it is and is worded when it is written. -/
structure LogEntry where
  level : Level
  event : String
  fields : Fields
  failure : Option Failure

namespace LogEntry

def of (level : Level) (event : String) (fields : Fields) : LogEntry := ⟨level, event, fields, none⟩

def about (level : Level) (event : String) (fields : Fields) (failure : Failure) : LogEntry :=
  ⟨level, event, fields, some failure⟩

/-- The entry with facts of its surroundings, which its own fields override. -/
def within (context : Fields) (entry : LogEntry) : LogEntry :=
  { entry with fields := context.merge entry.fields }

end LogEntry

end PaidAccess
