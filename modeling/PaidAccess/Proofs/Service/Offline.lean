import PaidAccess.Credits
import PaidAccess.Proofs.Credits.Effect
/-!
Actions that have nothing to do with the provider, such as those on credits. What such an action comes to in some
surroundings it comes to at every service with the same store and the same clock, whatever provider that has.
-/

namespace PaidAccess

open PaidAccess.Action

structure Service.Standing (service : Service) (now : DateTime) (store : MemoryStore) : Prop where
  memory : service.store = .memory store
  clock : service.now = now
  calm : ∀ point, service.faults point = []

def Service.backedBy (service : Service) (provider : Provider) : Service := { service with provider := provider }

def Provider.mute : Provider := ⟨fun _ => true, fun _ _ => .error .mismatch, []⟩

def Surroundings.mute (now : DateTime) : Surroundings := ⟨now, fun _ => .error .mismatch, fun _ => .error .mismatch⟩

namespace Service.Standing

variable {service : Service} {now : DateTime} {store : MemoryStore}

theorem wait (standing : service.Standing now store) (time : DateTime) :
    { service with now := time }.Standing time store :=
  ⟨standing.memory, rfl, standing.calm⟩

theorem muted (standing : service.Standing now store) : (service.backedBy .mute).At (.mute now) store :=
  ⟨standing.memory, standing.clock, standing.calm, fun _ => rfl, fun _ => rfl, fun _ _ => rfl, fun _ _ => rfl⟩

end Service.Standing

theorem Service.At.standing {service : Service} {around : Surroundings} {store : MemoryStore}
    (placed : service.At around store) : service.Standing around.now store :=
  ⟨placed.memory, placed.clock, placed.calm⟩

/-- An action that does not look at the provider and leaves it alone. -/
def Offline {α : Type} (action : Action α) : Prop := ∀ provider : Provider, Blind (·.backedBy provider) action

namespace Offline

variable {α β : Type} {action : Action α}

theorem bind {next : α → Action β} (first : Offline action) (rest : ∀ value, Offline (next value)) :
    Offline (action >>= next) :=
  fun provider => (first provider).bind fun value => rest value provider

theorem recover {handler : Failure → Action α} (first : Offline action) (rest : ∀ failure, Offline (handler failure)) :
    Offline (Action.recover action handler) :=
  fun provider => (first provider).recover fun failure => rest failure provider

theorem lift (outcome : Outcome α) : Offline (Action.lift outcome) := fun _ _ => rfl

theorem refuse_bind (error : BillingError) (next : α → Action β) : Offline (Action.refuse error >>= next) :=
  fun _ _ => rfl

theorem pure (value : α) : Offline (Pure.pure value : Action α) := fun _ _ => rfl

theorem log (entry : LogEntry) : Offline (Action.log entry) := fun _ _ => rfl

theorem now : Offline Action.now := fun _ _ => rfl

theorem pass (point : FaultPoint) : Offline (Action.pass point) :=
  fun provider => .pass (·.backedBy provider) (fun _ => rfl) (fun _ _ => rfl) point

theorem converse (store : RemoteStore) (program : Dialogue α) : Offline (Action.converse store program) := by
  induction program with
  | done outcome => exact lift outcome
  | remark entry next ih => exact bind (log entry) fun _ => ih
  | ask query next ih =>
    refine bind (fun provider service => ?_) ih
    have same : (service.backedBy provider).store = service.store := rfl
    rw [run_of, run_of, same]
    cases service.store <;> rfl

theorem perform (op : StoreOp) : Offline (Action.perform op) := by
  refine bind (pass _) fun _ provider service => ?_
  have remarked : ∀ (entries : List LogEntry) (service : Service), entries.foldl Service.logged (service.backedBy provider) =
      (entries.foldl Service.logged service).backedBy provider := by
    intro entries
    induction entries with
    | nil => exact fun _ => rfl
    | cons entry rest ih => exact fun service => ih (service.logged entry)
  have same : (service.backedBy provider).store = service.store := rfl
  rw [run_of, run_of, same]
  cases service.store with
  | memory store =>
    dsimp only
    rw [remarked]
    rfl
  | remote store replies => exact converse store _ provider service

end Offline

theorem Evaluates.standing {α : Type} {action : Action α} {now : DateTime} {store : MemoryStore}
    {result : Outcome α × MemoryStore} (evaluates : Evaluates (.mute now) store action result)
    (offline : Offline action) {service : Service} (standing : service.Standing now store) :
    (action.run service).1 = result.1 ∧ (action.run service).2.Standing now result.2 := by
  obtain ⟨after, ran, placed⟩ := evaluates _ standing.muted
  have moved := offline .mute service
  rw [ran, Prod.mk.injEq] at moved
  obtain ⟨outcome, left⟩ := moved
  have there := placed.standing
  rw [left] at there
  exact ⟨outcome.symm, there.memory, there.clock, there.calm⟩

namespace Credits

theorem consume_offline (userId : Value) (amount : Amount) : Offline (consume userId amount) := by
  have unexpired (now : DateTime) : Offline (unexpired userId now) := by
    refine .bind (.perform _) fun found => ?_
    cases found with
    | none => exact .lift _
    | some entitlement =>
      refine .bind (.lift _) fun expired => ?_
      cases expired with
      | true => exact .refuse_bind _ _
      | false => exact .pure _
  have quota (planId : String) : Offline (quota planId) := by
    refine .bind (.perform _) fun plan => ?_
    cases plan.bind (·.dailyCredits) with
    | none => exact .lift _
    | some credits => exact .pure _
  have todaysCounter (entitlement : Entitlement) (now : DateTime) : Offline (todaysCounter entitlement now) := by
    refine .bind (.perform _) fun found => ?_
    cases found with
    | some counter => exact .pure _
    | none => exact .bind (.lift _) fun window => .perform _
  unfold consume
  dsimp only
  split
  next => exact .refuse_bind _ _
  next =>
    refine .bind .now fun now => .bind (unexpired now) fun entitlement => .bind (quota _) fun limit => ?_
    refine .bind (todaysCounter entitlement now) fun counter => .bind (.perform _) fun spent => ?_
    cases spent with
    | none => exact .bind (.log _) fun _ => .lift _
    | some updated => exact .bind (.log _) fun _ => .lift _

theorem openToday_offline (now : DateTime) (entitlement : Entitlement) : Offline (openToday now entitlement) :=
  .recover (.bind (.lift _) fun _ => .bind (.perform _) fun _ => .pure _) fun _ => .bind (.log _) fun _ => .pure _

theorem openAll_offline (now : DateTime) (entitlements : List Entitlement) (found : OrderedMap String (Option Plan)) :
    Offline (openAll now found entitlements) := by
  induction entitlements generalizing found with
  | nil => exact .pure _
  | cons entitlement rest ih =>
    have cached : Offline (cachedPlan entitlement.planId found) := by
      unfold cachedPlan
      cases found.get? entitlement.planId with
      | some plan => exact .pure _
      | none => exact .bind (.perform _) fun _ => .pure _
    refine .bind cached fun looked => ?_
    obtain ⟨plan, found⟩ := looked
    dsimp only
    cases plan.bind (·.dailyCredits) with
    | none => exact .bind (.pure _) fun _ => .bind (ih _) fun _ => .pure _
    | some limit => exact .bind (openToday_offline now entitlement) fun _ => .bind (ih _) fun _ => .pure _

theorem resetDaily_offline : Offline resetDaily :=
  .bind .now fun now => .bind (.perform _) fun entitlements => .bind (openAll_offline now entitlements _) fun _ =>
    .bind (.log _) fun _ => .pure _

end Credits

theorem CreditCall.offline (call : CreditCall) : Offline call.action := by
  cases call with
  | spend userId amount => exact .bind (Credits.consume_offline userId amount) fun _ => .pure _
  | openDay => exact .bind Credits.resetDaily_offline fun _ => .pure _

theorem Service.Standing.credited {service : Service} {now : DateTime} {store : MemoryStore}
    (standing : service.Standing now store) (calls : List (DateTime × CreditCall)) :
    ∃ time, (service.credited calls).Standing time (store.credited calls) := by
  induction calls generalizing service now store with
  | nil => exact ⟨now, standing⟩
  | cons call rest ih =>
    have evaluates : Evaluates (.mute call.1) store call.2.action (store.credit call.1 call.2) := call.2.evaluates
    exact ih (evaluates.standing call.2.offline (standing.wait call.1)).2

end PaidAccess
