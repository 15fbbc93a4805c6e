import PaidAccess.Log.Entry
/-!
Queries to a table service, and programs that ask them. A program does not know who answers: the same
program can be run on tables, on recorded answers or on a live service.
-/

namespace PaidAccess

inductive Clause where
  | select
  | eq (column : String) (value : Value)
  | lte (column : String) (value : Value)
  | gt (column : String) (value : Value)
  | order (column : String) (descending : Bool)
  | limit (count : Nat)
  | update (changes : Fields)
  /-- Inserts rows, replacing those that agree with them on some columns, or keeping those. -/
  | upsert (rows : Value) (onConflict : String) (ignoreDuplicates : Bool)
  | delete

inductive Query where
  | table (name : String) (clauses : List Clause)
  | call (procedure : String) (parameters : Fields)

def Query.target : Query → String
  | .table name _ => name
  | .call procedure _ => "rpc:" ++ procedure

def callValue (name : String) (arguments : List Value) (options : Fields) : Value :=
  .list [.text name, .list arguments, .record options]

def Clause.toValue : Clause → Value
  | .select => callValue "select" [.text "*"] []
  | .eq column value => callValue "eq" [.text column, value] []
  | .lte column value => callValue "lte" [.text column, value] []
  | .gt column value => callValue "gt" [.text column, value] []
  | .order column descending =>
      callValue "order" [.text column] (if descending then [("desc", .bool true)] else [])
  | .limit count => callValue "limit" [.int count] []
  | .update changes => callValue "update" [.record changes] []
  | .upsert rows onConflict ignoreDuplicates =>
      callValue "upsert" [rows] (("on_conflict", .text onConflict)
        :: if ignoreDuplicates then [("ignore_duplicates", .bool true)] else [])
  | .delete => callValue "delete" [] []

def Query.toValue (query : Query) : Value :=
  .list [.text query.target, .list (match query with
    | .table _ clauses => clauses.map (·.toValue)
    | .call _ parameters => [callValue "rpc" [.record parameters] []])]

/-- A program that asks queries, one after the other, and remarks on what it does. -/
inductive Dialogue (α : Type) where
  | done (outcome : Outcome α)
  | ask (query : Query) (next : List Value → Dialogue α)
  | remark (entry : LogEntry) (next : Dialogue α)

namespace Dialogue

variable {α β : Type}

def bind : Dialogue α → (α → Dialogue β) → Dialogue β
  | .done (.ok value), next => next value
  | .done (.error failure), _ => .done (.error failure)
  | .ask query answer, next => .ask query fun rows => (answer rows).bind next
  | .remark entry rest, next => .remark entry (rest.bind next)

instance : Monad Dialogue where
  pure value := .done (.ok value)
  bind := bind

def rows (query : Query) : Dialogue (List Value) := .ask query pure

def note (entry : LogEntry) : Dialogue Unit := .remark entry (pure ())

def lift (outcome : Outcome α) : Dialogue α := .done outcome

end Dialogue

end PaidAccess
