import PaidAccess.Checkout
import PaidAccess.Credits
import PaidAccess.Proofs.Service.Interruption
import PaidAccess.Proofs.Store.Agreement
/-!
Two runs of one action that begin with different stores and are alike otherwise. `Alike` says that both take the same
course as long as the stores are in a relation: they come to the same outcome, leave services that differ in their
stores only, and the stores that they leave are in the relation again.
-/

namespace PaidAccess

open PaidAccess.Action

def Service.holding (service : Service) (store : Store) : Service := { service with store := store }

/-- An action that does not look at the store and leaves it alone. -/
def Storeless {α : Type} (action : Action α) : Prop :=
  ∀ (service : Service) (store : Store),
    action.run (service.holding store) = ((action.run service).1, (action.run service).2.holding store)

namespace Storeless

variable {α β : Type} {action : Action α}

theorem bind {next : α → Action β} (first : Storeless action) (rest : ∀ value, Storeless (next value)) :
    Storeless (action >>= next) := by
  intro service store
  have blind : Blind (·.holding store) action := fun service => first service store
  exact blind.bind (fun value service => rest value service store) service

theorem recover {handler : Failure → Action α} (first : Storeless action) (rest : ∀ failure, Storeless (handler failure)) :
    Storeless (Action.recover action handler) := by
  intro service store
  have blind : Blind (·.holding store) action := fun service => first service store
  exact blind.recover (fun failure service => rest failure service store) service

theorem lift (outcome : Outcome α) : Storeless (Action.lift outcome) := fun _ _ => rfl

theorem fail (failure : Failure) : Storeless (Action.fail failure : Action α) := lift _

theorem log (entry : LogEntry) : Storeless (Action.log entry) := fun _ _ => rfl

theorem now : Storeless Action.now := fun _ _ => rfl

theorem pass (point : FaultPoint) : Storeless (Action.pass point) := by
  intro service store
  exact Blind.pass (·.holding store) (fun _ => rfl) (fun _ _ => rfl) point service

theorem ask (request : ProviderRequest) : Storeless (Action.ask request) := by
  intro service store
  have served : Storeless (Action.pass (.provider request.method) >>= fun _ => Action.of fun service =>
      ((service.provider.serve request).1, { service with provider := (service.provider.serve request).2 })) :=
    bind (pass _) fun _ _ _ => rfl
  rw [run_ask, run_ask]
  change (if service.provider.takes request then _ else _) = _
  split
  next => exact served (service.requested request) store
  next => rfl

theorem askOrRefuse (request : ProviderRequest) (event : String) (fields : Fields) (error : String → BillingError) :
    Storeless (ProviderClient.askOrRefuse request event fields error) := by
  refine recover (ask request) fun failure => ?_
  cases failure.fromProvider? with
  | some reason => exact bind (log _) fun _ => fail _
  | none => exact fail _

theorem createPortal (customerId returnUrl : Value) : Storeless (ProviderClient.createPortal customerId returnUrl) :=
  bind (fun _ _ => rfl) fun _ => bind (askOrRefuse _ _ _ _) fun _ => lift _

end Storeless

/-- Whether an action takes the same course at two stores that are in a relation, which holds afterwards too, and what
then holds of a value that it returns. -/
def Alike {α : Type} (related : MemoryStore → MemoryStore → Prop) (action : Action α) (returns : α → Prop) : Prop :=
  ∀ (service : Service) (first second : MemoryStore), related first second →
    ∃ (outcome : Outcome α) (after : Service) (firstLeft secondLeft : MemoryStore),
      action.run (service.holding (.memory first)) = (outcome, after.holding (.memory firstLeft)) ∧
      action.run (service.holding (.memory second)) = (outcome, after.holding (.memory secondLeft)) ∧
      related firstLeft secondLeft ∧ ∀ value, outcome = .ok value → returns value

namespace Alike

variable {α β : Type} {related : MemoryStore → MemoryStore → Prop} {action : Action α} {returns : α → Prop}

theorem of_storeless (storeless : Storeless action) : Alike related action fun _ => True :=
  fun service first second holds => ⟨_, (action.run service).2, first, second, storeless service _,
    storeless service _, holds, fun _ _ => trivial⟩

theorem bind {next : α → Action β} {gives : β → Prop} (first : Alike related action returns)
    (rest : ∀ value, returns value → Alike related (next value) gives) : Alike related (action >>= next) gives := by
  intro service one other holds
  obtain ⟨outcome, between, oneLeft, otherLeft, ran, ranToo, still, returned⟩ := first service one other holds
  rw [run_bind, run_bind, ran, ranToo]
  cases outcome with
  | error failure => exact ⟨.error failure, between, oneLeft, otherLeft, rfl, rfl, still, nofun⟩
  | ok value => exact rest value (returned value rfl) between oneLeft otherLeft still

theorem pure {value : α} (done : returns value) : Alike related (Pure.pure value : Action α) returns := by
  refine fun service first second holds => ⟨_, service, first, second, rfl, rfl, holds, ?_⟩
  rintro _ ⟨⟩
  exact done

theorem fail (failure : Failure) : Alike related (Action.fail failure : Action α) returns :=
  fun service first second holds => ⟨_, service, first, second, rfl, rfl, holds, nofun⟩

theorem perform {op : StoreOp} {returns : op.Result → Prop} (unremarked : ∀ store : MemoryStore, store.remarks op = [])
    (same : ∀ now first second, related first second →
      (MemoryStore.apply now second op).1 = (MemoryStore.apply now first op).1 ∧
        related (MemoryStore.apply now first op).2 (MemoryStore.apply now second op).2 ∧
        ∀ value, (MemoryStore.apply now first op).1 = .ok value → returns value) :
    Alike related (Action.perform op) returns := by
  intro service first second holds
  have passing : ∀ store : MemoryStore, (Action.perform op).run (service.holding (.memory store)) =
      match (Action.pass (.store op.method)).run service with
      | (.ok _, between) => ((store.apply between.now op).1, between.holding (.memory (store.apply between.now op).2))
      | (.error failure, between) => (.error failure, between.holding (.memory store)) := by
    intro store
    unfold Action.perform
    rw [run_bind, Storeless.pass _ service]
    rcases (Action.pass (.store op.method)).run service with ⟨failure | _, between⟩
    · rfl
    · simp only [run_of, Service.holding, unremarked, List.foldl_nil]
  rw [passing, passing]
  rcases (Action.pass (.store op.method)).run service with ⟨failure | _, between⟩
  · exact ⟨.error failure, between, first, second, rfl, rfl, holds, nofun⟩
  · obtain ⟨equal, still, returned⟩ := same between.now first second holds
    dsimp only
    rw [equal]
    exact ⟨_, between, _, _, rfl, rfl, still, returned⟩

theorem quietly {next : α → Action β} {gives : β → Prop} (storeless : Storeless action)
    (rest : ∀ value, Alike related (next value) gives) : Alike related (action >>= next) gives :=
  .bind (.of_storeless storeless) fun value _ => rest value

end Alike

/-- What is left of two stores that agreed on a user: they still do, and nothing changed in either but that user's
counters. -/
structure MemoryStore.InStep (userId : String) (first second firstLeft secondLeft : MemoryStore) : Prop where
  agree : AgreeOn userId firstLeft secondLeft
  first : OnlyCountersOf userId first firstLeft
  second : OnlyCountersOf userId second secondLeft

namespace Alike

variable {userId : String} {one other : MemoryStore}

theorem looking {op : StoreOp} {returns : op.Result → Prop} (reads : op.method.reads = true)
    (unremarked : ∀ store : MemoryStore, store.remarks op = [])
    (same : ∀ now first second, MemoryStore.AgreeOn userId first second →
      (MemoryStore.apply now second op).1 = (MemoryStore.apply now first op).1)
    (returned : ∀ now first value, first.Keyed → (MemoryStore.apply now first op).1 = .ok value → returns value) :
    Alike (MemoryStore.InStep userId one other) (Action.perform op) returns := by
  refine .perform unremarked fun now first second step => ⟨same now first second step.agree, ?_, fun value =>
    returned now first value step.agree.keyed⟩
  rw [MemoryStore.apply_of_reads reads, MemoryStore.apply_of_reads reads]
  exact step

theorem findEntitlement : Alike (MemoryStore.InStep userId one other) (Action.perform (.findEntitlement (.text userId)))
    fun found => ∀ entitlement, found = some entitlement → entitlement.userId = userId := by
  refine .looking rfl (fun _ => rfl) (fun now first second agree => congrArg Except.ok agree.entitlement) ?_
  rintro now first value keyed looked entitlement rfl
  exact keyed.entitlements.name_eq (Except.ok.inj looked)

theorem findPlan (planId : String) :
    Alike (MemoryStore.InStep userId one other) (Action.findPlan planId) fun _ => True := by
  refine .looking rfl (fun _ => rfl) (fun now first second agree => ?_) fun _ _ _ _ _ => trivial
  unfold MemoryStore.apply MemoryStore.findPlan
  rw [agree.plans]

theorem findActiveUsage (feature : FeatureKey) (time : DateTime) :
    Alike (MemoryStore.InStep userId one other) (Action.perform (.findActiveUsage (.text userId) feature (some time)))
      fun _ => True :=
  .looking rfl (fun _ => rfl) (fun _ _ _ agree => agree.findActiveUsage feature time) fun _ _ _ _ _ => trivial

section Checkout

open Checkout

theorem portalFor : Alike (MemoryStore.InStep userId one other) (portalFor (.text userId)) fun _ => True := by
  have looked : Alike (MemoryStore.InStep userId one other) (Action.perform (.findUser .null (.text userId)))
      fun _ => True := by
    refine .looking rfl (fun _ => rfl) (fun now first second agree => ?_) fun _ _ _ _ _ => trivial
    change second.userOfId (.text userId) = first.userOfId (.text userId)
    have found : MemoryStore.atKey none second.users.get? (.text userId) =
        MemoryStore.atKey none first.users.get? (.text userId) := congrArg Except.ok agree.user
    unfold MemoryStore.userOfId
    rw [found]
  unfold Checkout.portalFor
  refine .bind looked fun found _ => ?_
  cases found.bind User.customer? with
  | none => exact .of_storeless (.bind (.log _) fun _ => .fail _)
  | some customerId => exact .of_storeless (.bind (.createPortal _ _) fun _ => .bind (.log _) fun _ => .lift _)

theorem info : Alike (MemoryStore.InStep userId one other) (info (.text userId)) fun _ => True := by
  unfold Checkout.info
  refine .bind .findEntitlement fun found _ => ?_
  cases found with
  | none => exact .fail _
  | some entitlement =>
    refine .bind (.findPlan _) fun plan _ => .quietly .now fun time => .bind (.findActiveUsage _ _) fun counter _ => ?_
    exact .quietly (.lift _) fun used => .pure trivial

end Checkout

section Credits

open Credits

theorem unexpired (now : DateTime) :
    Alike (MemoryStore.InStep userId one other) (unexpired (.text userId) now)
      fun entitlement => entitlement.userId = userId := by
  refine .bind .findEntitlement fun found owner => ?_
  cases found with
  | none => exact .fail _
  | some entitlement =>
    refine .quietly (.lift _) fun expired => ?_
    cases expired with
    | true => exact .bind (.fail _) fun _ (never : False) => never.elim
    | false => exact .pure (owner entitlement rfl)

theorem quota (planId : String) : Alike (MemoryStore.InStep userId one other) (quota planId) fun _ => True := by
  refine .bind (.findPlan planId) fun plan _ => ?_
  cases plan.bind (·.dailyCredits) with
  | none => exact .fail _
  | some credits => exact .pure trivial

theorem todaysCounter {entitlement : Entitlement} (owner : entitlement.userId = userId) (now : DateTime) :
    Alike (MemoryStore.InStep userId one other) (todaysCounter entitlement now) fun _ => True := by
  subst owner
  refine .bind (.findActiveUsage _ _) fun found _ => ?_
  cases found with
  | some counter => exact .pure trivial
  | none =>
    refine .quietly (.lift _) fun (start, finish) => .perform (fun _ => rfl) fun now first second step => ?_
    obtain ⟨same, still⟩ := step.agree.openCounter .aiCredits start finish
    exact ⟨same, ⟨still, step.first.trans (.openCounter first _ _ _ _), step.second.trans (.openCounter second _ _ _ _)⟩,
      fun _ _ => trivial⟩

theorem consume (amount : Amount) :
    Alike (MemoryStore.InStep userId one other) (consume (.text userId) amount) fun _ => True := by
  have charged : ∀ (counter : UsageCounter) (limit : Value),
      Alike (MemoryStore.InStep userId one other)
        (Action.perform (.spend (.text userId) .aiCredits (some counter.start) amount.toValue limit)) fun _ => True := by
    refine fun counter limit => .perform (fun _ => rfl) fun now first second step => ?_
    have owner : (⟨userId, .aiCredits, counter.start.moment⟩ : UsageKey).userId = userId := rfl
    obtain ⟨same, still⟩ := step.agree.spend owner amount.toValue limit
    exact ⟨same, ⟨still, step.first.trans (.spend step.agree.keyed owner _ _),
      step.second.trans (.spend step.agree.keyedToo owner _ _)⟩, fun _ _ => trivial⟩
  unfold Credits.consume
  dsimp only
  split
  next => exact .bind (.fail _) fun _ (never : False) => never.elim
  next =>
    refine .quietly .now fun now => .bind (.unexpired now) fun entitlement owner => .bind (.quota _) fun limit _ => ?_
    refine .bind (.todaysCounter owner now) fun counter _ => .bind (charged counter _) fun updated _ => ?_
    cases updated with
    | none => exact .of_storeless (.bind (.log _) fun _ => .fail _)
    | some updated => exact .of_storeless (.bind (.log _) fun _ => .lift _)

end Credits

end Alike

end PaidAccess
