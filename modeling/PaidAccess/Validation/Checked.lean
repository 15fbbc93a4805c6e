import PaidAccess.Validation.Issue
import PaidAccess.Value.Basic
/-!
Reading records into structures. All fields are read, so the issues of every field are reported, in
the order of the fields.
-/

namespace PaidAccess

/-- The part of a value that a path leads to; where a step is missing, the part that lacks it. -/
def PathStep.follow : List PathStep → Value → Value
  | .field name :: path, .record fields =>
      match Fields.find? name fields with
      | some value => follow path value
      | none => .record fields
  | .index position :: path, .list items =>
      match items[position]? with
      | some item => follow path item
      | none => .list items
  | _, value => value

def Issue.subject (whole : Value) (issue : Issue) : Value := PathStep.follow issue.path whole

/-- A value that passed, or the issues that it has. -/
inductive Checked (α : Type) where
  | valid (value : α)
  | faulty (issues : List Issue)

namespace Checked

variable {α β : Type}

/-- Issues of both sides are kept, those of the function first. -/
instance : Applicative Checked where
  pure := valid
  seq f x :=
    match f, x () with
    | valid f, valid x => valid (f x)
    | valid _, faulty issues => faulty issues
    | faulty issues, valid _ => faulty issues
    | faulty first, faulty second => faulty (first ++ second)

def fault (kind : IssueKind) : Checked α := faulty [⟨[], kind⟩]

def andThen (checked : Checked α) (next : α → Checked β) : Checked β :=
  match checked with
  | valid value => next value
  | faulty issues => faulty issues

def within (step : PathStep) : Checked α → Checked α
  | valid value => valid value
  | faulty issues => faulty (issues.map (Issue.within step))

def nullable (read : Value → Checked α) : Value → Checked (Option α)
  | .null => valid none
  | value => some <$> read value

def required (name : String) (read : Value → Checked α) (fields : Fields) : Checked α :=
  match fields.find? name with
  | none => faulty [⟨[.field name], .missing⟩]
  | some value => (read value).within (.field name)

def defaulted (name : String) (absent : α) (read : Value → Checked α) (fields : Fields) : Checked α :=
  match fields.find? name with
  | none => valid absent
  | some value => (read value).within (.field name)

def optional (name : String) (read : Value → Checked α) (fields : Fields) : Checked (Option α) :=
  defaulted name none (nullable read) fields

def model (read : Fields → Checked α) : Value → Checked α
  | .record fields => read fields
  | _ => fault .modelType

def items (read : Value → Checked α) : Nat → List Value → Checked (List α)
  | _, [] => valid []
  | position, item :: rest =>
      List.cons <$> (read item).within (.index position) <*> items read (position + 1) rest

def list (read : Value → Checked α) : Value → Checked (List α)
  | .list values => items read 0 values
  | _ => fault .listType

def fieldsOf (read : Value → Checked α) : Fields → Checked (List (String × α))
  | [] => valid []
  | (name, value) :: rest =>
      (fun value rest => (name, value) :: rest) <$> (read value).within (.field name)
        <*> fieldsOf read rest

def dictionary (read : Value → Checked α) : Value → Checked (List (String × α))
  | .record fields => fieldsOf read fields
  | _ => fault .dictType

end Checked

end PaidAccess
