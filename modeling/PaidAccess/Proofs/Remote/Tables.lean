import Mathlib.Data.List.Sort
import PaidAccess.Text.Parts
import PaidAccess.Store.Remote
import PaidAccess.Proofs.Value.Fields
/-!
What a table service does. Queries have their usual meaning on tables, which are lists of rows in the order in which they
came: conditions and orders compare times as points in time, an upsert agrees with a row on the columns of a conflict, and the
two procedures remove the access of a user and spend from a counter. A service is anything that answers as these tables do;
it may write times as it likes.
-/

namespace PaidAccess

/-- What a value in a column means: a time is a point in time, however it is written, and any other value is itself. -/
inductive Cell where
  | plain (value : Value)
  | time (moment : Moment)
  deriving DecidableEq

namespace Cell

def timeColumns : List String := ["expires_at", "created_at", "updated_at", "cycle_started_at", "cycle_ends_at"]

def of? (column : String) (value : Value) : Option Cell :=
  if column ∈ timeColumns ∧ value ≠ .null then
    match Lenient.time value with
    | .valid found => some (.time found.moment)
    | .faulty _ => none
  else some (.plain value)

/-- Whether two columns are known and agree. -/
def agree : Option Cell → Option Cell → Bool
  | some first, some second => first = second && first ≠ .plain .null
  | _, _ => false

def atMost : Option Cell → Option Cell → Bool
  | some (.time (.instant first)), some (.time (.instant second)) => first ≤ second
  | _, _ => false

def after : Option Cell → Option Cell → Bool
  | some (.time (.instant first)), some (.time (.instant second)) => second < first
  | _, _ => false

end Cell

def Fields.cell? (row : Fields) (column : String) : Option Cell := (row.find? column).bind (Cell.of? column)

def Fields.agreeOn (columns : List String) (first second : Fields) : Bool :=
  columns.all fun column => Cell.agree (first.cell? column) (second.cell? column)

/-- The conditions of a query as tests of rows. -/
def Clause.test : Clause → Fields → Bool
  | .eq column value, row => Cell.agree (row.cell? column) (Cell.of? column value)
  | .lte column value, row => Cell.atMost (row.cell? column) (Cell.of? column value)
  | .gt column value, row => Cell.after (row.cell? column) (Cell.of? column value)
  | _, _ => true

abbrev Tables := String → List Fields

namespace Tables

def passes (clauses : List Clause) (row : Fields) : Bool := clauses.all (·.test row)

def Precedes (column : String) (descending : Bool) (first second : Fields) : Prop :=
  Cell.atMost (if descending then second.cell? column else first.cell? column)
    (if descending then first.cell? column else second.cell? column) = true

instance (column : String) (descending : Bool) : DecidableRel (Precedes column descending) :=
  fun _ _ => inferInstanceAs (Decidable (_ = true))

def arrange (rows : List Fields) : List Clause → List Fields
  | [] => rows
  | .order column descending :: rest => arrange (rows.insertionSort (Precedes column descending)) rest
  | .limit count :: rest => arrange (rows.take count) rest
  | _ :: rest => arrange rows rest

def select (clauses : List Clause) (rows : List Fields) : List Fields :=
  arrange (rows.filter (passes clauses)) clauses

def change (test : Fields → Bool) (edit : Fields → Fields) (rows : List Fields) : List Fields × List Fields :=
  ((rows.filter test).map edit, rows.map fun row => if test row then edit row else row)

def remove (test : Fields → Bool) (rows : List Fields) : List Fields × List Fields :=
  (rows.filter test, rows.filter fun row => !test row)

/-- Puts a row in: where one agrees with it, that is replaced or kept, and otherwise it comes last with its defaults. -/
def upsert (columns : List String) (keep : Bool) (defaults given : Fields) (rows : List Fields) :
    List Fields × List Fields :=
  if rows.any (given.agreeOn columns) then
    if keep then ([], rows) else change (given.agreeOn columns) (·.merge given) rows
  else ([defaults.merge given], rows ++ [defaults.merge given])

def upsertAll (columns : List String) (keep : Bool) (defaults : Fields) :
    List Fields → List Fields → List Fields × List Fields
  | [], rows => ([], rows)
  | given :: rest, rows =>
      let first := upsert columns keep defaults given rows
      let others := upsertAll columns keep defaults rest first.2
      (first.1 ++ others.1, others.2)

def given : Value → List Fields
  | .record row => [row]
  | .list items => items.filterMap fun item =>
      match item with
      | .record row => some row
      | _ => none
  | _ => []

def conflict (names : String) : List String := (parts (· == ',') names.toList).map String.ofList

def set (tables : Tables) (name : String) (rows : List Fields) : Tables :=
  fun other => if other = name then rows else tables other

def hasRoom (amount quota : Value) (row : Fields) : Bool :=
  match row.cell? "used_amount", amount, quota with
  | some (.plain (.int used)), .int amount, .int quota => used ≤ quota - amount
  | _, _, _ => false

def spent (amount : Value) (row : Fields) : Fields :=
  match row.cell? "used_amount", amount with
  | some (.plain (.int used)), .int amount => Fields.set "used_amount" (.int (used + amount)) row
  | _, _ => row

def callClauses (parameters : Fields) : List Clause :=
  [.eq "user_id" (parameters.get "target_user_id"), .eq "feature_key" (parameters.get "target_feature_key"),
    .eq "cycle_started_at" (parameters.get "target_cycle_started_at")]

section

variable (remote : RemoteStore)

def defaults (now : DateTime) (name : String) : Fields :=
  if name = remote.entitlements then [("created_at", .text now.iso)] else []

def run (now : DateTime) (tables : Tables) : Query → Option (List Fields × Tables)
  | .table name (.select :: clauses) => some (select clauses (tables name), tables)
  | .table name (.update changes :: clauses) =>
      let changed := change (passes clauses) (·.merge changes) (tables name)
      some (changed.1, tables.set name changed.2)
  | .table name (.delete :: clauses) =>
      let removed := remove (passes clauses) (tables name)
      some (removed.1, tables.set name removed.2)
  | .table name [.upsert rows onConflict keep] =>
      let put := upsertAll (conflict onConflict) keep (defaults remote now name) (given rows) (tables name)
      some (put.1, tables.set name put.2)
  | .table _ _ => none
  | .call procedure parameters =>
      if procedure = remote.revokeProcedure then
        let isTheirs := (Clause.eq "user_id" (parameters.get "target_user_id")).test
        some ([], (tables.set remote.usage (remove isTheirs (tables remote.usage)).2).set remote.entitlements
          (remove isTheirs (tables remote.entitlements)).2)
      else if procedure = remote.spendProcedure then
        let amount := parameters.get "amount"
        let test := fun row => passes (callClauses parameters) row && hasRoom amount (parameters.get "quota") row
        let changed := change test (spent amount) (tables remote.usage)
        some (changed.1, tables.set remote.usage changed.2)
      else none

theorem run_upsert (now : DateTime) (tables : Tables) (name : String) (row : Fields) (names : String) (keep : Bool) :
    run remote now tables (.table name [.upsert (.record row) names keep]) =
      some ((upsert (conflict names) keep (defaults remote now name) row (tables name)).1,
        tables.set name (upsert (conflict names) keep (defaults remote now name) row (tables name)).2) := by
  simp only [run, given, upsertAll, List.append_nil]

def uniqueColumns : List (String × List String) :=
  [(remote.users, ["id"]), (remote.users, ["stripe_customer_id"]), (remote.plans, ["id"]),
    (remote.plans, ["stripe_product_id"]), (remote.entitlements, ["user_id"]),
    (remote.entitlements, ["stripe_subscription_id"]),
    (remote.usage, ["user_id", "feature_key", "cycle_started_at"])]

def Unique (tables : Tables) : Prop :=
  ∀ key ∈ uniqueColumns remote, (tables key.1).Pairwise fun first second => first.agreeOn key.2 second = false

end

end Tables

def Fields.isReadable (row : Fields) : Bool := row.all fun field => (Cell.of? field.1 field.2).isSome

def Clause.isReadable : Clause → Bool
  | .eq column value | .lte column value | .gt column value => (Cell.of? column value).isSome
  | .update changes => changes.isReadable
  | .upsert rows _ _ => (Tables.given rows).all (·.isReadable)
  | _ => true

def Query.isReadable : Query → Bool
  | .table _ clauses => clauses.all (·.isReadable)
  | .call _ parameters => (Tables.callClauses parameters).all (·.isReadable)

/-- Whether two rows mean the same in every column. -/
def Fields.Alike (first second : Fields) : Prop := ∀ column, first.cell? column = second.cell? column

/-- Whether a value shows a row, however it writes the times. -/
def Shows (value : Value) (row : Fields) : Prop := ∃ shown : Fields, value = .record shown ∧ shown.Alike row

/-- A table service: what its tables show in each of its states, and how it answers queries. -/
structure TableService (σ : Type) where
  tables : σ → Tables
  answer : DateTime → Query → σ → List Value × σ

/-- The service answers as the tables do whenever the times in a query can be read and no rows come to agree on columns that
are unique. -/
structure TableService.Lawful {σ : Type} (service : TableService σ) (remote : RemoteStore) : Prop where
  answers : ∀ {now query state rows after}, query.isReadable = true →
    Tables.run remote now (service.tables state) query = some (rows, after) → after.Unique remote →
      List.Forall₂ Shows (service.answer now query state).1 rows ∧
        ∀ name, List.Forall₂ Fields.Alike (service.tables (service.answer now query state).2 name) (after name)

namespace TableService

variable {σ α β : Type}

def converse (service : TableService σ) (now : DateTime) : Dialogue α → σ → Outcome α × σ
  | .done outcome, state => (outcome, state)
  | .ask query next, state =>
      service.converse now (next (service.answer now query state).1) (service.answer now query state).2
  | .remark _ next, state => service.converse now next state

def perform (service : TableService σ) (remote : RemoteStore) (now : DateTime) (op : StoreOp) (state : σ) :
    Outcome op.Result × σ :=
  service.converse now (remote.program now op) state

theorem converse_bind (service : TableService σ) (now : DateTime) (dialogue : Dialogue α) (next : α → Dialogue β)
    (state : σ) :
    service.converse now (dialogue >>= next) state = match service.converse now dialogue state with
      | (.ok value, after) => service.converse now (next value) after
      | (.error failure, after) => (.error failure, after) := by
  change service.converse now (dialogue.bind next) state = _
  induction dialogue generalizing state with
  | done outcome => cases outcome <;> rfl
  | ask query answer ih => exact ih _ _
  | remark entry rest ih => exact ih _

def ofTables (remote : RemoteStore) : TableService Tables where
  tables := id
  answer now query tables :=
    match Tables.run remote now tables query with
    | some (rows, after) => (rows.map .record, after)
    | none => ([], tables)

theorem answer_ofTables {remote : RemoteStore} {now : DateTime} {query : Query} {tables after : Tables} {rows : List Fields}
    (run : Tables.run remote now tables query = some (rows, after)) :
    (ofTables remote).answer now query tables = (rows.map .record, after) := by
  change (match Tables.run remote now tables query with
    | some (rows, after) => (rows.map Value.record, after)
    | none => ([], tables)) = _
  rw [run]

theorem lawful_ofTables (remote : RemoteStore) : (ofTables remote).Lawful remote := by
  refine ⟨fun {now query tables rows after} _ run _ => ?_⟩
  have answered : (ofTables remote).answer now query tables = (rows.map .record, after) := answer_ofTables run
  rw [answered]
  refine ⟨?_, fun name => List.forall₂_same.mpr fun _ _ _ => rfl⟩
  exact List.forall₂_map_left_iff.mpr (List.forall₂_same.mpr fun row _ => ⟨row, rfl, fun _ => rfl⟩)

end TableService

end PaidAccess
