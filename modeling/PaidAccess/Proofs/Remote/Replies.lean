import PaidAccess.Proofs.Service.Evaluation
import PaidAccess.Proofs.Store.OrderedMap
import PaidAccess.Proofs.Remote.Tables
/-!
A running service whose replies are prepared as a table service gives them. What it performs comes to what the table service
performs, and leaves the replies that are prepared for later. So what is known of the programs of a remote store on tables is
known of the operations that a service performs.
-/

namespace PaidAccess

namespace TableService

variable {σ α : Type}

/-- The targets that a program addresses, one after the other, and the rows that it is answered with there. -/
def transcript (service : TableService σ) (now : DateTime) : Dialogue α → σ → List (String × List Value)
  | .done _, _ => []
  | .ask query next, state =>
      (query.target, (service.answer now query state).1) ::
        service.transcript now (next (service.answer now query state).1) (service.answer now query state).2
  | .remark _ next, state => service.transcript now next state

end TableService

namespace Store

/-- Whether the replies for each target are those of a transcript, in the same order. -/
def Prepared (replies : OrderedMap String (List Reply)) (transcript : List (String × List Value)) : Prop :=
  ∀ target, (replies.get? target).getD [] = (transcript.filter (·.1 = target)).map (.rows ·.2)

def repliesOf : List (String × List Value) → OrderedMap String (List Reply)
  | [] => ∅
  | (target, rows) :: rest => (repliesOf rest).insert target (.rows rows :: ((repliesOf rest).get? target).getD [])

theorem prepared_repliesOf (transcript : List (String × List Value)) : Prepared (repliesOf transcript) transcript := by
  induction transcript with
  | nil => exact fun target => rfl
  | cons entry rest ih =>
    obtain ⟨target, rows⟩ := entry
    intro other
    rw [repliesOf, OrderedMap.get?_insert, List.filter_cons]
    by_cases same : other = target
    · subst same
      simp [ih other]
    · simp [same, Ne.symm same, ih other]

theorem Prepared.nextReply {replies : OrderedMap String (List Reply)} {target : String} {rows : List Value}
    {rest : List (String × List Value)} (prepared : Prepared replies ((target, rows) :: rest)) :
    ∃ left, Store.nextReply target replies = (.ok rows, left) ∧ Prepared left rest := by
  have here := prepared target
  rw [List.filter_cons_of_pos (by simp), List.map_cons] at here
  refine ⟨replies.insert target ((rest.filter (·.1 = target)).map (.rows ·.2)), ?_, fun other => ?_⟩
  · unfold Store.nextReply
    rw [here]
  · rw [OrderedMap.get?_insert]
    split
    next same => rw [same]; rfl
    next different =>
      rw [prepared other, List.filter_cons_of_neg (by simpa using Ne.symm different)]

end Store

namespace Action

variable {σ α : Type} {service : Service} {store : RemoteStore} {replies : OrderedMap String (List Reply)}
  {tables : TableService σ} {now : DateTime} {state : σ} {later : List (String × List Value)}

theorem run_converse_of_prepared {dialogue : Dialogue α} (held : service.store = .remote store replies)
    (prepared : Store.Prepared replies (tables.transcript now dialogue state ++ later)) :
    ∃ after left, (converse store dialogue).run service = ((tables.converse now dialogue state).1, after) ∧
      after.store = .remote store left ∧ Store.Prepared left later := by
  induction dialogue generalizing service state replies with
  | done outcome => exact ⟨service, replies, rfl, held, prepared⟩
  | remark entry next ih => exact ih held prepared
  | ask query next ih =>
    obtain ⟨left, replied, rest⟩ := prepared.nextReply
    obtain ⟨asked, answered, stored⟩ : ∃ asked : Service, (converse store (.ask query next)).run service =
        (converse store (next (tables.answer now query state).1)).run asked ∧ asked.store = .remote store left := by
      refine ⟨{ service.queried query with store := .remote store left }, ?_, rfl⟩
      rw [converse, run_bind, run_of, held]
      dsimp only
      rw [replied]
    rw [answered]
    exact ih _ stored rest

end Action

/-- Whether every service that is at a time, plans no failure of an operation and has the replies of the tables prepared for
it performs it with a result, and uses up those replies. -/
def TableService.Serves {σ : Type} (tables : TableService σ) (store : RemoteStore) (now : DateTime) (op : StoreOp) (state : σ)
    (found : op.Result) : Prop :=
  ∀ (service : Service) (replies : OrderedMap String (List Reply)) (later : List (String × List Value)), service.now = now →
    service.faults (.store op.method) = [] → service.store = .remote store replies →
    Store.Prepared replies (tables.transcript now (store.program now op) state ++ later) →
      ∃ after left, (Action.perform op).run service = (.ok found, after) ∧ after.store = .remote store left ∧
        Store.Prepared left later

namespace Action

variable {σ : Type} {service : Service} {store : RemoteStore} {replies : OrderedMap String (List Reply)}
  {tables : TableService σ} {state : σ} {later : List (String × List Value)}

theorem run_perform_of_prepared {op : StoreOp} (unplanned : service.faults (.store op.method) = [])
    (held : service.store = .remote store replies)
    (prepared : Store.Prepared replies (tables.transcript service.now (store.program service.now op) state ++ later)) :
    ∃ after left, (perform op).run service = ((tables.perform store service.now op state).1, after) ∧
      after.store = .remote store left ∧ Store.Prepared left later := by
  have passed : (pass (.store op.method)).run service = (.ok (), service) := by
    rw [pass, run_of, Service.nextFault, unplanned]
  obtain ⟨after, left, run, stays, kept⟩ := run_converse_of_prepared held prepared
  refine ⟨after, left, ?_, stays, kept⟩
  rw [perform, run_bind, passed]
  dsimp only
  rw [run_of, held]
  exact run

end Action

theorem TableService.serves {σ : Type} {tables : TableService σ} {store : RemoteStore} {now : DateTime} {op : StoreOp}
    {state : σ} {found : op.Result} (performed : (tables.perform store now op state).1 = .ok found) :
    tables.Serves store now op state found := by
  rintro service replies later rfl unplanned held prepared
  obtain ⟨after, left, run, stays, kept⟩ := Action.run_perform_of_prepared unplanned held prepared
  rw [performed] at run
  exact ⟨after, left, run, stays, kept⟩

end PaidAccess
