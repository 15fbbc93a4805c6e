import PaidAccess.Number.Binary64
/-!
Untyped values: what providers send, what rows hold, what requests carry and what log entries
record. Records keep the order of their fields.
-/

namespace PaidAccess

/-- A value without a schema. A `handle` is a provider object that is not a plain record but can be
expanded into its contents. -/
inductive Value where
  | null
  | bool (flag : Bool)
  | int (number : Int)
  | real (number : Binary64)
  | text (text : String)
  | list (items : List Value)
  | record (fields : List (String × Value))
  | handle (contents : Value)

abbrev Fields := List (String × Value)

namespace Value

instance : Inhabited Value := ⟨.null⟩

/-- Whether the value counts as present: null, false, zero and everything empty do not. -/
def truthy : Value → Bool
  | .null => false
  | .bool flag => flag
  | .int number => number != 0
  | .real number => !number.isZero
  | .text content => content != ""
  | .list items => !items.isEmpty
  | .record fields => !fields.isEmpty
  | .handle _ => true

def ofOption {α : Type} (wrap : α → Value) : Option α → Value
  | none => .null
  | some a => wrap a

def ofText? (text : Option String) : Value := ofOption .text text

def ofInt? (number : Option Int) : Value := ofOption .int number

def isText? (text : Option String) : Value → Bool
  | .text content => text == some content
  | .null => text.isNone
  | _ => false

mutual

def finite : Value → Value
  | .real (.finite negative significand exponent) => .real (.finite negative significand exponent)
  | .real _ => .null
  | .list items => .list (finiteItems items)
  | .record fields => .record (finiteFields fields)
  | value => value

def finiteItems : List Value → List Value
  | [] => []
  | item :: rest => finite item :: finiteItems rest

def finiteFields : List (String × Value) → List (String × Value)
  | [] => []
  | (name, value) :: rest => (name, finite value) :: finiteFields rest

end

def texts (items : List String) : Value := .list (items.map .text)

def orElse (value other : Value) : Value := if value.truthy then value else other

end Value

def present? : Option String → Option String
  | some content => if content = "" then none else some content
  | none => none

def orElseText (first second : Option String) : Option String :=
  match present? first with
  | some content => some content
  | none => second

namespace Fields

def find? (name : String) (fields : Fields) : Option Value := fields.lookup name

def get (name : String) (fields : Fields) : Value := (fields.lookup name).getD .null

/-- Sets a field: in place when it is there, else at the end. -/
def set (name : String) (value : Value) : Fields → Fields
  | [] => [(name, value)]
  | (other, old) :: rest =>
      if other = name then (name, value) :: rest else (other, old) :: set name value rest

def merge (base later : Fields) : Fields :=
  later.foldl (fun fields field => set field.1 field.2 fields) base

def ofTruthy (name : String) (value : Value) : Fields := if value.truthy then [(name, value)] else []

def erase (name : String) (fields : Fields) : Fields :=
  fields.eraseP (fun field => field.1 == name)

end Fields

end PaidAccess
