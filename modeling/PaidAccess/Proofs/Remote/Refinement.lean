import PaidAccess.Proofs.Service.Sample
import PaidAccess.Proofs.Remote.Counters
import PaidAccess.Proofs.Remote.Replies
/-!
The store in a table service refines the store in memory: on the same operations it gives what that gives, and its tables hold what
that has. They may differ where a time has an offset of seconds, which is lost when a row is written, and where a counter falls below
zero, which no row may.
-/

namespace PaidAccess

open List (Forall₂)

namespace StoreOp

/-- Whether an operation names what it looks for by texts, spends whole amounts, and has times with offsets of whole minutes. -/
def Proper : StoreOp → Prop
  | .findUser customerId internalId =>
      (∃ customer : Option String, customerId = .ofText? customer) ∧ ∃ id : Option String, internalId = .ofText? id
  | .findUserByEmail name | .findPlanByProduct name | .findPlan name | .findEntitlement name | .revoke name
  | .revokeSubscription name => ∃ text, name = .text text
  | .assignCustomer userId customerId => ∃ user customer, userId = .text user ∧ customerId = .text customer
  | .saveEntitlement entitlement => entitlement.expiresAt.ToTheMinute
  | .resetUsage userId _ start finish | .openCounter userId _ start finish => ∃ user opening closing, userId = .text user ∧
      start = some opening ∧ finish = some closing ∧ opening.ToTheMinute ∧ closing.ToTheMinute
  | .findActiveUsage userId _ time => ∃ user asked, userId = .text user ∧ time = some asked ∧ asked.ToTheMinute
  | .spend userId _ start amount limit => ∃ user opening spent quota, userId = .text user ∧ start = some opening ∧
      opening.ToTheMinute ∧ amount = .int spent ∧ limit = .int quota
  | .activeEntitlements time => ∃ asked, time = some asked ∧ asked.ToTheMinute

/-- Whether two results of an operation mean the same: whether they differ at most in how times are written. -/
def Same : (op : StoreOp) → op.Result → op.Result → Prop
  | .findUser .. | .findUserByEmail .. | .assignCustomer .. => Option.Rel Kind.users.Same
  | .findPlanByProduct .. | .findPlan .. => Option.Rel Kind.plans.Same
  | .findEntitlement .. => Option.Rel Kind.entitlements.Same
  | .saveEntitlement .. => Kind.entitlements.Same
  | .resetUsage .. => Forall₂ Kind.counters.Same
  | .findActiveUsage .. | .spend .. => Option.Rel Kind.counters.Same
  | .openCounter .. => Kind.counters.Same
  | .activeEntitlements .. => Forall₂ Kind.entitlements.Same
  | .revoke .. => Eq
  | .revokeSubscription .. => Eq

end StoreOp

namespace TableService

variable {σ : Type} {service : TableService σ} {remote : RemoteStore} {now : DateTime} {state : σ} {store : MemoryStore}

/-- One operation gives what it gives in memory, and leaves tables that hold what is there in memory afterwards. -/
theorem perform_refines (lawful : service.Lawful remote) (separate : remote.Separate) (keyed : store.Keyed)
    (contents : Contents remote (service.tables state) store) {op : StoreOp} (clock : now.ToTheMinute) (proper : op.Proper)
    (regular : store.Regular) (still : (store.apply now op).2.Regular) :
    ∃ found expected, (service.perform remote now op state).1 = .ok found ∧ (store.apply now op).1 = .ok expected ∧
      op.Same found expected ∧ Contents remote (service.tables (service.perform remote now op state).2) (store.apply now op).2 := by
  have brings : service.Brings remote now store (remote.program now op)
      (fun found => ∃ expected, (store.apply now op).1 = .ok expected ∧ op.Same found expected) (store.apply now op).2 := by
    cases op with
    | findUser customerId internalId => exact .findUser lawful keyed regular proper.1 proper.2
    | findUserByEmail email =>
      obtain ⟨email, rfl⟩ := proper
      exact (Brings.findUserByEmail lawful keyed regular email).imp fun found same => ⟨_, rfl, same⟩
    | assignCustomer userId customerId =>
      obtain ⟨userId, customerId, rfl, rfl⟩ := proper
      exact (Brings.assignCustomer lawful separate keyed userId customerId still).imp fun found same => ⟨_, rfl, same⟩
    | findPlanByProduct productId =>
      obtain ⟨productId, rfl⟩ := proper
      exact (Brings.findPlanByProduct lawful keyed regular productId).imp fun found same => ⟨_, rfl, same⟩
    | findPlan planId =>
      obtain ⟨planId, rfl⟩ := proper
      exact (Brings.findPlan lawful keyed regular planId).imp fun found same => ⟨_, rfl, same⟩
    | findEntitlement userId =>
      obtain ⟨userId, rfl⟩ := proper
      exact (Brings.findEntitlement lawful keyed regular userId).imp fun found same => ⟨_, rfl, same⟩
    | saveEntitlement entitlement =>
      exact (Brings.saveEntitlement lawful separate keyed proper clock still).imp fun found same => ⟨_, rfl, same⟩
    | resetUsage userId plan start finish =>
      obtain ⟨userId, start, finish, rfl, rfl, rfl, starts, ends⟩ := proper
      exact .resetUsage lawful separate keyed userId plan starts ends still
    | findActiveUsage userId feature time =>
      obtain ⟨userId, time, rfl, rfl, exact'⟩ := proper
      exact .findActiveUsage lawful keyed userId feature exact' regular (Kind.proper_of_stand contents.usage)
    | openCounter userId feature start finish =>
      obtain ⟨userId, start, finish, rfl, rfl, rfl, starts, ends⟩ := proper
      exact .openCounter lawful separate keyed userId feature starts ends still
    | spend userId feature start amount limit =>
      obtain ⟨userId, start, amount, limit, rfl, rfl, starts, rfl, rfl⟩ := proper
      exact .spend lawful separate keyed userId feature starts amount limit regular still
    | activeEntitlements time =>
      obtain ⟨time, rfl, exact'⟩ := proper
      exact .activeEntitlements lawful keyed regular exact' (Kind.proper_of_stand contents.entitlements)
    | revoke userId =>
      obtain ⟨userId, rfl⟩ := proper
      exact (Brings.revoke lawful separate keyed userId still).imp fun _ _ => ⟨(), rfl, rfl⟩
    | revokeSubscription subscriptionId =>
      obtain ⟨subscriptionId, rfl⟩ := proper
      exact (Brings.revokeSubscription lawful separate keyed subscriptionId regular still).imp fun found same => ⟨_, rfl, same⟩
  obtain ⟨found, left, performed, ⟨expected, given, same⟩, kept⟩ := brings state contents
  change service.perform remote now op state = _ at performed
  rw [performed]
  exact ⟨found, expected, rfl, given, same, kept⟩

def after (service : TableService σ) (remote : RemoteStore) : List (DateTime × StoreOp) → σ → σ
  | [], state => state
  | (now, op) :: rest, state => service.after remote rest (service.perform remote now op state).2

end TableService

def MemoryStore.after : List (DateTime × StoreOp) → MemoryStore → MemoryStore
  | [], store => store
  | (now, op) :: rest, store => MemoryStore.after rest (store.apply now op).2

theorem TableService.after_append {σ : Type} (service : TableService σ) (remote : RemoteStore)
    (first second : List (DateTime × StoreOp)) (state : σ) :
    service.after remote (first ++ second) state = service.after remote second (service.after remote first state) := by
  induction first generalizing state with
  | nil => rfl
  | cons step rest ih => exact ih _

namespace MemoryStore

variable {store : MemoryStore}

theorem after_append (first second : List (DateTime × StoreOp)) (store : MemoryStore) :
    after (first ++ second) store = after second (after first store) := by
  induction first generalizing store with
  | nil => rfl
  | cons step rest ih => exact ih _

theorem Keyed.after (keyed : store.Keyed) (run : List (DateTime × StoreOp)) : (MemoryStore.after run store).Keyed := by
  induction run generalizing store with
  | nil => exact keyed
  | cons step rest ih => exact ih (keyed.apply step.1 step.2)

end MemoryStore

namespace TableService

variable {σ : Type} {service : TableService σ} {remote : RemoteStore} {state : σ} {store : MemoryStore}
  {run : List (DateTime × StoreOp)}

theorem contents_after (lawful : service.Lawful remote) (separate : remote.Separate) (keyed : store.Keyed)
    (contents : Contents remote (service.tables state) store)
    (proper : ∀ step ∈ run, step.1.ToTheMinute ∧ step.2.Proper)
    (regular : ∀ earlier, earlier <+: run → (MemoryStore.after earlier store).Regular) :
    Contents remote (service.tables (service.after remote run state)) (MemoryStore.after run store) := by
  induction run generalizing state store with
  | nil => exact contents
  | cons step rest ih =>
    obtain ⟨⟨clock, here⟩, later⟩ := List.forall_mem_cons.mp proper
    obtain ⟨_, _, -, -, -, kept⟩ := perform_refines lawful separate keyed contents clock here
      (regular [] List.nil_prefix) (regular [step] ⟨rest, rfl⟩)
    exact ih (keyed.apply step.1 step.2) kept later fun earlier started =>
      regular (step :: earlier) (List.cons_prefix_cons.mpr ⟨rfl, started⟩)

/-- Every operation of a run gives what it gives in memory, also in a running service whose replies the tables prepare, and leaves
tables that hold what is there in memory afterwards, as long as times have offsets of whole minutes, what is unique stays so
and no counter falls below zero. -/
theorem refines_memory (lawful : service.Lawful remote) (separate : remote.Separate) (keyed : store.Keyed)
    (contents : Contents remote (service.tables state) store)
    (proper : ∀ step ∈ run, step.1.ToTheMinute ∧ step.2.Proper)
    (regular : ∀ earlier, earlier <+: run → (MemoryStore.after earlier store).Regular) :
    ∀ earlier now op, earlier ++ [(now, op)] <+: run →
      (∃ found expected, (service.perform remote now op (service.after remote earlier state)).1 = .ok found ∧
        service.Serves remote now op (service.after remote earlier state) found ∧
        ((MemoryStore.after earlier store).apply now op).1 = .ok expected ∧ op.Same found expected) ∧
      Contents remote (service.tables (service.after remote (earlier ++ [(now, op)]) state))
        (MemoryStore.after (earlier ++ [(now, op)]) store) := by
  intro earlier now op started
  have before : earlier <+: run := (List.prefix_append _ _).trans started
  have reached := contents_after lawful separate keyed contents (fun step listed => proper step (before.subset listed))
    fun first begun => regular first (begun.trans before)
  obtain ⟨clock, here⟩ := proper (now, op) (started.subset (List.mem_append_right _ List.mem_cons_self))
  have still := regular _ started
  rw [MemoryStore.after_append] at still
  obtain ⟨found, expected, performed, given, same, kept⟩ :=
    perform_refines lawful separate (keyed.after earlier) reached clock here (regular _ before) still
  rw [after_append, MemoryStore.after_append]
  exact ⟨⟨found, expected, performed, serves performed, given, same⟩, kept⟩

end TableService

open TableService

namespace Sample

def fresh : UsageCounter := ⟨"u1", .aiCredits, .whole 0, march 0 0, march 1 0⟩

def counting : MemoryStore := MemoryStore.empty.addCounter fresh

def countingTables : Tables := fun name => if name = "user_usage" then [fresh.row] else []

theorem fresh_writable : fresh.Writable := ⟨by decide, ⟨0, rfl⟩, ⟨0, rfl⟩⟩

theorem countingTables_contents : Contents .standard countingTables counting where
  users := .nil
  plans := .nil
  entitlements := .nil
  usage := .cons ⟨fresh_writable.proper, fresh_writable.holds⟩ .nil

theorem standard_separate : RemoteStore.standard.Separate := ⟨by decide, by decide⟩

def held : Entitlement := ⟨"u1", "basic", march 30 0, "sub_1", "price_1", some "cus_1", false, none, none⟩

def billingRun : List (DateTime × StoreOp) :=
  [(march 0 0, .saveEntitlement held), (march 0 60, .spend (.text "u1") .aiCredits (some (march 0 0)) (.int 3) (.int 5)),
    (march 0 120, .findActiveUsage (.text "u1") .aiCredits (some (march 0 120))),
    (march 0 180, .revokeSubscription (.text "sub_1"))]

def revoking : List (String × List Value) :=
  (TableService.ofTables .standard).transcript (march 0 180)
    (RemoteStore.standard.program (march 0 180) (.revokeSubscription (.text "sub_1")))
    ((TableService.ofTables .standard).after .standard (billingRun.take 3) countingTables)

/-- The shop with a remote store that gives these answers. -/
def remoteShop : Service :=
  { shop with now := march 0 180, store := .remote .standard (Store.repliesOf revoking) }

theorem billingRun_regular : ∀ earlier, earlier <+: billingRun → (MemoryStore.after earlier counting).Regular := by
  intro earlier started
  rw [List.prefix_iff_eq_take.mp started]
  have bound : earlier.length ≤ 4 := started.length_le
  revert bound
  generalize earlier.length = count
  intro bound
  have counts : count = 0 ∨ count = 1 ∨ count = 2 ∨ count = 3 ∨ count = 4 := by omega
  rcases counts with rfl | rfl | rfl | rfl | rfl <;> exact ⟨.of_entries (by decide) (by decide) (by decide), by decide⟩

theorem billingRun_proper : ∀ step ∈ billingRun, step.1.ToTheMinute ∧ step.2.Proper := by
  have exact : ∀ days seconds, (march days seconds).ToTheMinute := fun _ _ => ⟨0, rfl⟩
  simp only [billingRun, List.forall_mem_cons, List.not_mem_nil, false_implies, implies_true, and_true]
  exact ⟨⟨exact 0 0, exact 30 0⟩, ⟨exact 0 60, _, _, _, _, rfl, rfl, exact 0 0, rfl, rfl⟩,
    ⟨exact 0 120, _, _, rfl, rfl, exact 0 120⟩, exact 0 180, _, rfl⟩

end Sample

open Sample in
/-- Along the run the tables tell what was spent and whose subscription it was. -/
theorem refines_memory_of_billingRun :
    ((ofTables .standard).Lawful .standard ∧ RemoteStore.standard.Separate ∧ counting.Keyed ∧
      Contents .standard countingTables counting ∧ (∀ step ∈ billingRun, step.1.ToTheMinute ∧ step.2.Proper) ∧
      ∀ earlier, earlier <+: billingRun → (MemoryStore.after earlier counting).Regular) ∧
    (∃ found, ((ofTables .standard).perform .standard (march 0 120)
        (.findActiveUsage (.text "u1") .aiCredits (some (march 0 120)))
        ((ofTables .standard).after .standard (billingRun.take 2) countingTables)).1 = .ok (some found) ∧
      found.cells = ({ fresh with used := .whole 3 } : UsageCounter).cells) ∧
    ((ofTables .standard).perform .standard (march 0 180) (.revokeSubscription (.text "sub_1"))
      ((ofTables .standard).after .standard (billingRun.take 3) countingTables)).1 = .ok (some "u1") ∧
    ∃ after, (Action.perform (.revokeSubscription (.text "sub_1"))).run remoteShop = (.ok (some "u1"), after) := by
  have keyed : counting.Keyed := MemoryStore.Keyed.empty.addCounter fresh
  have steps := refines_memory (lawful_ofTables .standard) standard_separate keyed countingTables_contents billingRun_proper
    billingRun_regular
  refine ⟨⟨lawful_ofTables .standard, standard_separate, keyed, countingTables_contents, billingRun_proper, billingRun_regular⟩,
    ?_, ?_⟩
  · obtain ⟨⟨found, expected, performed, -, given, same⟩, -⟩ := steps (billingRun.take 2) _ _ ⟨billingRun.drop 3, rfl⟩
    have counted : expected = some { fresh with used := .whole 3 } := (Except.ok.inj given).symm
    subst counted
    cases same with
    | some same => exact ⟨_, performed, same⟩
  · obtain ⟨⟨found, expected, performed, serves, given, same⟩, -⟩ := steps (billingRun.take 3) _ _ ⟨[], rfl⟩
    have owner : found = some "u1" := same.trans (Except.ok.inj given).symm
    have prepared : Store.Prepared (Store.repliesOf revoking) (revoking ++ []) :=
      (List.append_nil revoking).symm ▸ Store.prepared_repliesOf revoking
    obtain ⟨after, -, run, -⟩ := serves remoteShop _ [] rfl rfl rfl prepared
    exact ⟨performed.trans (congrArg Except.ok owner), after, owner ▸ run⟩

theorem not_ok_of_unread {α σ : Type} {service : TableService σ} {now : DateTime} {state : σ} {read : Value → Checked α} {row : Value}
    (unread : ∀ found, read row ≠ .valid found) (found : Option α) :
    (service.converse now (RemoteStore.readRow read (some row)) state).1 ≠ .ok found := by
  unfold RemoteStore.readRow
  dsimp only
  cases reads : read row with
  | valid value => exact absurd reads (unread value)
  | faulty issues => nofun

namespace Sample

def overdraw : StoreOp := .spend (.text "u1") .aiCredits (some (march 0 0)) (.int (-5)) (.int 10)

def halfAhead : DateTime := { march 0 0 with offset := some 30000000, offset_lt := by rintro _ ⟨⟩; decide }

def opening : StoreOp := .openCounter (.text "u1") .aiCredits (some halfAhead) (some (march 1 0))

theorem time_wire_halfAhead : Lenient.time (.text halfAhead.wire) = .valid (march 0 0) := by
  have zone := DateTime.zone_offsetMinutes (show (0 : Int).natAbs < 24 * 60 by decide)
  exact DateTime.time_of_zone (march 0 0) rfl zone (DateTime.unmarked_offsetMinutes _)

theorem spent_fresh : Tables.run .standard (march 0 0) countingTables (.call "consume_user_usage"
    (RemoteStore.spendParameters "u1" .aiCredits (march 0 0) (-5) 10)) =
      some ([Tables.spent (.int (-5)) fresh.row],
        countingTables.set "user_usage" [Tables.spent (.int (-5)) fresh.row]) := by
  have stands : Kind.counters.Stands fresh.row fresh := ⟨fresh_writable.proper, fresh_writable.holds⟩
  have key := UsageCounter.test_key_of_stands stands "u1" .aiCredits (show (march 0 0).ToTheMinute from ⟨0, rfl⟩)
  have test : (Tables.passes (Tables.callClauses (RemoteStore.spendParameters "u1" .aiCredits (march 0 0) (-5) 10)) fresh.row &&
      Tables.hasRoom (.int (-5)) (.int 10) fresh.row) = true := by
    rw [UsageCounter.hasRoom_of_stands stands]
    simp only [Tables.callClauses_spend, Tables.passes, List.all_cons, List.all_nil, Bool.and_true, key]
    decide
  have changed : Tables.change (fun row =>
      Tables.passes (Tables.callClauses (RemoteStore.spendParameters "u1" .aiCredits (march 0 0) (-5) 10)) row &&
        Tables.hasRoom (.int (-5)) (.int 10) row) (Tables.spent (.int (-5))) [fresh.row] =
          ([Tables.spent (.int (-5)) fresh.row], [Tables.spent (.int (-5)) fresh.row]) := by
    simp only [Tables.change, List.filter_cons, test, ↓reduceIte, List.filter_nil, List.map_cons, List.map_nil]
  have run := congrArg (fun changed : List Fields × List Fields => some (changed.1, countingTables.set "user_usage" changed.2)) changed
  exact run

theorem overdraw_fails (found : Option UsageCounter) :
    ((ofTables .standard).perform .standard (march 0 0) overdraw countingTables).1 ≠ .ok found := by
  have shown : (Tables.spent (.int (-5)) fresh.row).cell? "used_amount" = some (.plain (.int (-5))) := by
    have used : fresh.row.cell? "used_amount" = some (.plain (.int 0)) :=
      fresh_writable.holds ("used_amount", .plain (.int 0)) (by simp [UsageCounter.cells, fresh, Amount.toValue])
    unfold Tables.spent
    rw [used]
    exact Fields.cell?_set _ _ _ _
  have unread := UsageCounter.ofValue_of_negative shown (by decide)
  change ((ofTables .standard).converse (march 0 0) (RemoteStore.readRow UsageCounter.ofValue
    ((ofTables .standard).answer (march 0 0) (.call "consume_user_usage"
      (RemoteStore.spendParameters "u1" .aiCredits (march 0 0) (-5) 10)) countingTables).1.head?) _).1 ≠ _
  rw [answer_ofTables spent_fresh]
  exact not_ok_of_unread unread found

def opened : UsageCounter := { fresh with start := halfAhead }

theorem opening_shifts : ¬ Contents .standard ((ofTables .standard).perform .standard (march 0 0) opening fun _ => []).2
    (MemoryStore.empty.apply (march 0 0) opening).2 := by
  have put : Tables.run .standard (march 0 0) (fun _ => []) (.table "user_usage"
      [.upsert (opened.toValue DateTime.wire) RemoteStore.usageColumns true]) =
        some ([Fields.merge [] opened.row], Tables.set (fun _ => []) "user_usage" [Fields.merge [] opened.row]) := by
    rw [UsageCounter.toValue_wire, Tables.run_upsert]
    rfl
  have last : ∀ (answers : List Value) (tables : Tables), ((ofTables .standard).converse (march 0 0)
      (RemoteStore.readRow UsageCounter.ofValue answers.head? >>= fun found => pure (found.getD opened)) tables).2 = tables := by
    intro answers tables
    rw [converse_bind]
    unfold RemoteStore.readRow
    cases answers.head? with
    | none => rfl
    | some row =>
      dsimp only
      cases UsageCounter.ofValue row <;> rfl
  intro contents
  have state : ((ofTables .standard).perform .standard (march 0 0) opening fun _ => []).2 =
      Tables.set (fun _ => []) "user_usage" [Fields.merge [] opened.row] := by
    refine (last _ _).trans ?_
    change ((ofTables .standard).answer (march 0 0) (.table "user_usage"
      [.upsert (opened.toValue DateTime.wire) RemoteStore.usageColumns true]) fun _ => []).2 = _
    rw [answer_ofTables put]
  rw [state] at contents
  have stands : Kind.counters.Stands (Fields.merge [] opened.row) opened := (List.forall₂_cons.mp contents.usage).1
  have written : (Fields.merge [] opened.row).cell? "cycle_started_at" = some (.time (march 0 0).moment) := by
    have timed := Cell.of?_time (show "cycle_started_at" ∈ Cell.timeColumns by decide) time_wire_halfAhead
    simpa [Fields.merge, Fields.cell?_set, UsageCounter.row, opened] using timed
  have same : some (Cell.time (march 0 0).moment) = some (.time halfAhead.moment) := written.symm.trans (stands.cell? rfl)
  exact absurd same (by decide)

end Sample

open Sample in
/-- A spend that leaves a counter below zero fails in the tables, and a start with an offset of seconds is not the same there. -/
theorem differs_from_memory :
    (Contents .standard countingTables counting ∧ counting.Unique ∧ (counting.apply (march 0 0) overdraw).2.Unique ∧
      (counting.apply (march 0 0) overdraw).1 = .ok (some { fresh with used := .whole (-5) }) ∧
      ∀ found, ((ofTables .standard).perform .standard (march 0 0) overdraw countingTables).1 ≠ .ok found) ∧
    (Contents .standard (fun _ => []) .empty ∧ halfAhead.Zoned ∧ (MemoryStore.empty.apply (march 0 0) opening).2.Unique ∧
      ¬ Contents .standard ((ofTables .standard).perform .standard (march 0 0) opening fun _ => []).2
        (MemoryStore.empty.apply (march 0 0) opening).2) := by
  refine ⟨⟨countingTables_contents, ?_, ?_, rfl, overdraw_fails⟩, ⟨.nil, .nil, .nil, .nil⟩, ⟨_, rfl⟩, ?_, opening_shifts⟩ <;>
    exact .of_entries (by decide) (by decide) (by decide)

end PaidAccess
