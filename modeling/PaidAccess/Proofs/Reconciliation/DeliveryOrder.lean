import PaidAccess.Proofs.Reconciliation.Redelivery
import PaidAccess.Proofs.Provider.Times
import PaidAccess.Proofs.Usage.Windows
import PaidAccess.Proofs.Service.Sample
/-!
Two events about one customer and one subscription, delivered in either order. Whichever comes first
decides everything: it gives the customer to the user that it refers to, and it saves the entitlement that
the triggers of the other are computed from, so that none of them fires any more. The order is of no
consequence exactly if the two events agree on what the first one decides.
-/

namespace PaidAccess

open Reconciliation

/-- A real event about a customer and a subscription. -/
structure ReconcileEvent.About (event : ReconcileEvent) (customer subscriptionId : String) : Prop where
  real : event.simulated = false
  payer : present? event.customerId = some customer
  subject : present? event.subscriptionId = some subscriptionId

structure Surroundings.Running (around : Surroundings) (subscriptionId : String) where
  subscription : ProviderSubscription
  start : DateTime
  finish : DateTime
  stated : around.subscription (.text subscriptionId) = .ok subscription
  entitled : subscription.bucket = .entitled
  begins : subscription.start? = some start
  ends : subscription.finish? = some finish
  ordered : start.before finish = .ok true

def Decision.counters (decision : Decision) (now : DateTime) (user : User) : List UsageCounter :=
  decision.plan.zeroCounters user.id decision.grant.start decision.grant.finish
    (creditsClose now decision.grant.finish)

namespace Surroundings.Running

variable {around : Surroundings} {subscriptionId : String} (running : around.Running subscriptionId)

def details : SubscriptionDetails := running.subscription.details (some running.start, some running.finish)

theorem start_zoned : running.start.Zoned :=
  ((period_universal running.stated).1 running.start running.begins).zoned

theorem finish_zoned : running.finish.Zoned :=
  ((period_universal running.stated).2 running.finish running.ends).zoned

theorem details_eq {event : ReconcileEvent} (real : event.simulated = false)
    (subject : present? event.subscriptionId = some subscriptionId) : around.details event = .ok running.details := by
  have text : Value.ofText? event.subscriptionId = .text subscriptionId := by
    rw [(present?_eq_some_iff.mp subject).1]
    rfl
  refine (details_eq_ok_iff real).mpr ⟨running.subscription, _, ?_, ?_, rfl⟩
  · rw [text]
    exact running.stated
  · simp [ProviderSubscription.period, running.entitled, running.begins, running.ends]

theorem grant_period {grant : Grant} (granted : grantOf running.details = .ok grant) :
    grant.start = running.start ∧ grant.finish = running.finish := by
  obtain ⟨-, -, start, finish⟩ := grantOf_eq_ok_iff.mp granted
  exact ⟨(Option.some.inj start).symm, (Option.some.inj finish).symm⟩

end Surroundings.Running

namespace ReconcileEvent.About

variable {event other : ReconcileEvent} {customer subscriptionId : String}
  (about : event.About customer subscriptionId) (also : other.About customer subscriptionId)

include about

theorem isComplete : event.isComplete = true := by
  simp [ReconcileEvent.isComplete, about.payer, about.subject]

theorem payer_eq (user : User) : Reconciliation.payer event user = .ok (some customer) := by
  simp only [Reconciliation.payer, about.payer]

include also

theorem adopted_eq (user : User) : other.adopted user = event.adopted user := by
  simp only [ReconcileEvent.adopted, about.payer, also.payer]

theorem adopt_eq (store : MemoryStore) (user : User) : store.adopt other user = store.adopt event user := by
  simp only [MemoryStore.adopt, about.payer, also.payer]

theorem customer?_eq (store : MemoryStore) : store.customer? other = store.customer? event := by
  simp only [MemoryStore.customer?, about.payer, also.payer]

end ReconcileEvent.About

namespace MemoryStore

variable {store : MemoryStore} {around : Surroundings} {event other : ReconcileEvent} {user : User}
  {customer subscriptionId : String}

theorem reconcile_of_nobody (nobody : store.resolve event = .ok none) : (store.reconcile around event).2 = store := by
  unfold reconcile
  rw [nobody]
  split <;> rfl

theorem reconcile_of_running (running : around.Running subscriptionId) (about : event.About customer subscriptionId)
    (resolved : store.resolve event = .ok (some user)) :
    (store.reconcile around event).2 =
      ((store.adopt event user).activate around event (event.adopted user) running.details).2 := by
  have bucket : StatusBucket.ofStatus running.details.status = .entitled := running.entitled
  unfold reconcile
  rw [about.isComplete, resolved]
  simp only [↓reduceIte, reported_store]
  rw [deliver, running.details_eq about.real about.subject, proceed_ok, settle, bucket]

theorem activate_of_running (running : around.Running subscriptionId) (about : event.About customer subscriptionId)
    {decision : Decision} (decided : store.decide around event user running.details = .ok decision) :
    store.activate around event user running.details =
      (.ok (granted user running.details decision),
        ((store.restart around.now user decision).2.saveEntitlement around.now
          (decision.entitlement user (some customer) running.details.cancelAtPeriodEnd)).2) := by
  obtain ⟨granted, -⟩ := decide_eq_ok_iff.mp decided
  refine activate_of_decided decided ?_ (about.payer_eq user)
  rw [(running.grant_period granted).2]
  exact running.finish_zoned

theorem exists_resetsUsage (event : ReconcileEvent) {previous : Option Entitlement} {plan : Plan} {id : String}
    {grant : Grant} {usageReset : Bool}
    (decided : resetsUsage .entitled (.of other previous plan id grant) = .ok usageReset) :
    ∃ reset, resetsUsage .entitled (.of event previous plan id grant) = .ok reset := by
  obtain ⟨newCycle, dated, -⟩ := Outcome.bind_eq_ok_iff.mp decided
  have also : (Activation.of event previous plan id grant).isNewCycle = .ok newCycle := dated
  unfold resetsUsage Activation.resetsUsage
  rw [also]
  cases (Activation.of event previous plan id grant).simulated with
  | true => exact ⟨_, rfl⟩
  | false => cases (Activation.of event previous plan id grant).source <;> exact ⟨_, rfl⟩

theorem decide_of_decide (about : event.About customer subscriptionId) (also : other.About customer subscriptionId)
    {details : SubscriptionDetails} {decision : Decision}
    (decided : store.decide around event user details = .ok decision) :
    ∃ reset, store.decide around other user details = .ok { decision with usageReset := reset } := by
  obtain ⟨granted, sold, named, comparable, resets⟩ := decide_eq_ok_iff.mp decided
  obtain ⟨reset, fires⟩ := exists_resetsUsage other resets
  rw [subscriptionIdOf_of_present about.subject, ← subscriptionIdOf_of_present also.subject around.now] at named
  exact ⟨reset, decide_eq_ok_iff.mpr ⟨granted, sold, named, comparable, fires⟩⟩

theorem exists_undecided (about : event.About customer subscriptionId) (also : other.About customer subscriptionId)
    {details : SubscriptionDetails} {failure : Failure}
    (undecided : store.decide around event user details = .error failure) :
    ∃ failure, store.decide around other user details = .error failure := by
  cases decided : store.decide around other user details with
  | error failure => exact ⟨failure, rfl⟩
  | ok decision =>
    obtain ⟨reset, contrary⟩ := decide_of_decide also about decided
    rw [undecided] at contrary
    cases contrary

theorem activate_users (running : around.Running subscriptionId) (about : event.About customer subscriptionId) :
    (store.activate around event user running.details).2.users = store.users := by
  cases decided : store.decide around event user running.details with
  | error failure => rw [activate_of_undecided decided]
  | ok decision =>
    rw [activate_of_running running about decided, saveEntitlement_eq, restart_users]

theorem touch_saveEntitlement (store : MemoryStore) (now : DateTime) (entitlement : Entitlement) :
    (store.saveEntitlement now entitlement).2.touch now entitlement.userId = (store.saveEntitlement now entitlement).2 := by
  rw [saveEntitlement_eq]
  unfold touch
  simp only [OrderedMap.get?_insert_self, OrderedMap.insert_insert]

theorem activate_activate (running : around.Running subscriptionId) (about : event.About customer subscriptionId)
    (also : other.About customer subscriptionId) :
    ((store.activate around event user running.details).2.activate around other user running.details).2 =
      (store.activate around event user running.details).2 := by
  cases decided : store.decide around event user running.details with
  | error failure =>
    rw [activate_of_undecided decided]
    obtain ⟨failure, undecided⟩ := exists_undecided about also decided
    rw [activate_of_undecided undecided]
  | ok decision =>
    have first := activate_of_running running about decided
    have ordered : ∀ grant, grantOf running.details = .ok grant → grant.start.before grant.finish = .ok true := by
      intro grant granted
      obtain ⟨start, finish⟩ := running.grant_period granted
      rw [start, finish]
      exact running.ordered
    have again := activate_again also.real about.subject also.subject
      ((also.payer_eq user).trans (about.payer_eq user).symm) ordered first .refl around.now
    rw [first]
    exact (congrArg Prod.snd again).trans (touch_saveEntitlement _ _ _)

theorem reconcile_reconcile (keyed : store.Keyed) (running : around.Running subscriptionId)
    (about : event.About customer subscriptionId) (also : other.About customer subscriptionId)
    (resolved : store.resolve event = .ok (some user)) :
    ((store.reconcile around event).2.reconcile around other).2 = (store.reconcile around event).2 := by
  rw [reconcile_of_running running about resolved]
  have users : ((store.adopt event user).activate around event (event.adopted user) running.details).2.users =
      (store.adopt event user).users := activate_users running about
  have found : ((store.adopt event user).activate around event (event.adopted user) running.details).2.resolve other =
      .ok (some (event.adopted user)) := by
    rw [resolve_eq, about.customer?_eq also, customer?_of_users users, customer?_adopt keyed resolved about.payer]
  rw [reconcile_of_running running also found, about.adopt_eq also, adopt_adopted, about.adopted_eq also,
    event.adopted_adopted]
  exact activate_activate running about also

def Counts (store : MemoryStore) (counters : List UsageCounter) : Prop :=
  ∀ counter ∈ counters, store.usage.get? counter.key = some counter

theorem restart_usage {now : DateTime} {decision : Decision} (zoned : decision.grant.finish.Zoned) :
    (store.restart now user decision).2.usage =
      if decision.usageReset then store.usage.enter UsageCounter.key (decision.counters now user) else store.usage := by
  cases reset : decision.usageReset with
  | false => simp [restart, reset]
  | true =>
    obtain ⟨counters, restarted⟩ := exists_restart store now user zoned
    obtain ⟨made, listed, resets, entered⟩ := restart_of_reset reset restarted
    rw [Plan.freshCounters_of_zoned _ _ _ zoned] at made
    cases made
    rw [entered]
    rfl

theorem activate_entitlements (running : around.Running subscriptionId) (about : event.About customer subscriptionId)
    {decision : Decision} (decided : store.decide around event user running.details = .ok decision) :
    (store.activate around event user running.details).2.entitlements =
      store.entitlements.insert user.id
        { decision.entitlement user (some customer) running.details.cancelAtPeriodEnd with
          createdAt := store.createdAt around.now user.id, updatedAt := some around.now } := by
  rw [activate_of_running running about decided]
  exact saved_entitlements _ _ _ _ _

theorem activate_usage (running : around.Running subscriptionId) (about : event.About customer subscriptionId)
    {decision : Decision} (decided : store.decide around event user running.details = .ok decision) :
    (store.activate around event user running.details).2.usage =
      if decision.usageReset then store.usage.enter UsageCounter.key (decision.counters around.now user)
      else store.usage := by
  obtain ⟨granted, -⟩ := decide_eq_ok_iff.mp decided
  have zoned : decision.grant.finish.Zoned := by
    rw [(running.grant_period granted).2]
    exact running.finish_zoned
  rw [activate_of_running running about decided, saveEntitlement_eq]
  exact restart_usage zoned

/-- Two stores with the same accounts, entitlements and counters. -/
structure SameAccess (first second : MemoryStore) : Prop where
  users : first.users = second.users
  entitlements : first.entitlements = second.entitlements
  usage : first.usage = second.usage

theorem SameAccess.refl (store : MemoryStore) : SameAccess store store := ⟨rfl, rfl, rfl⟩

/-- Whether two events about one user agree on what is reset, as far as there is anything to reset. -/
def Agree (store : MemoryStore) (around : Surroundings) (user : User) (details : SubscriptionDetails)
    (first second : ReconcileEvent) : Prop :=
  ∀ decision reset, store.decide around first user details = .ok decision →
    store.decide around second user details = .ok { decision with usageReset := reset } →
    decision.usageReset = reset ∨ store.Counts (decision.counters around.now user)

/-- Two activations enter the same counters exactly if both reset them or neither does, or they are there. -/
theorem activate_usage_eq_iff (running : around.Running subscriptionId)
    (about : event.About customer subscriptionId) (also : other.About customer subscriptionId)
    {decision : Decision} {reset : Bool} (decided : store.decide around event user running.details = .ok decision)
    (decidedToo : store.decide around other user running.details = .ok { decision with usageReset := reset }) :
    (store.activate around event user running.details).2.usage =
        (store.activate around other user running.details).2.usage ↔
      decision.usageReset = reset ∨ store.Counts (decision.counters around.now user) := by
  have unchanged : store.usage.enter UsageCounter.key (decision.counters around.now user) = store.usage ↔
      store.Counts (decision.counters around.now user) :=
    OrderedMap.enter_eq_self_iff (decision.plan.zeroCounters_distinct _ _ _ _)
  have counters : ({ decision with usageReset := reset } : Decision).counters around.now user =
      decision.counters around.now user := rfl
  rw [activate_usage running about decided, activate_usage running also decidedToo, counters, ← unchanged]
  cases decision.usageReset <;> cases reset <;> simp [eq_comm]

theorem sameAccess_activate_iff (running : around.Running subscriptionId)
    (about : event.About customer subscriptionId) (also : other.About customer subscriptionId) :
    SameAccess (store.activate around event user running.details).2
        (store.activate around other user running.details).2 ↔
      store.Agree around user running.details event other := by
  cases decided : store.decide around event user running.details with
  | error failure =>
    obtain ⟨failure, undecided⟩ := exists_undecided about also decided
    rw [activate_of_undecided decided, activate_of_undecided undecided]
    refine ⟨fun _ decision reset contrary => ?_, fun _ => .refl store⟩
    rw [decided] at contrary
    cases contrary
  | ok decision =>
    obtain ⟨reset, decidedToo⟩ := decide_of_decide about also decided
    have usage := activate_usage_eq_iff running about also decided decidedToo
    constructor
    · intro same known other first second
      rw [decided] at first
      rw [decidedToo] at second
      cases first
      cases second
      exact usage.mp same.usage
    · intro agree
      refine ⟨?_, ?_, usage.mpr (agree decision reset decided decidedToo)⟩
      · rw [activate_users running about, activate_users running also]
      · rw [activate_entitlements running about decided, activate_entitlements running also decidedToo]
        rfl

/-- Whether the order of two events is of no consequence: if both are about somebody, it is the same user,
and they agree on what is reset. -/
def OrderFree (store : MemoryStore) (around : Surroundings) (details : SubscriptionDetails)
    (first second : ReconcileEvent) : Prop :=
  ∀ user other, store.resolve first = .ok (some user) → store.resolve second = .ok (some other) →
    user.id = other.id ∧ store.Agree around user details first second

theorem agree_adopt {details : SubscriptionDetails} {first second : ReconcileEvent} :
    (store.adopt event user).Agree around (event.adopted user) details first second ↔
      store.Agree around user details first second := by
  have decide_eq : ∀ source : ReconcileEvent,
      (store.adopt event user).decide around source (event.adopted user) details =
        store.decide around source user details := by
    intro source
    rw [adopt_eq]
    unfold decide
    rw [event.adopted_id]
  unfold Agree Counts Decision.counters
  simp only [decide_eq, event.adopted_id]
  rw [adopt_eq]

theorem users_of_different (keyed : store.Keyed) (running : around.Running subscriptionId)
    (about : event.About customer subscriptionId) (also : other.About customer subscriptionId) {userToo : User}
    (found : store.resolve event = .ok (some user)) (foundToo : store.resolve other = .ok (some userToo))
    (different : user.id ≠ userToo.id) :
    (store.reconcile around event).2.users ≠ (store.reconcile around other).2.users := by
  intro same
  rw [reconcile_of_running running about found, reconcile_of_running running also foundToo,
    activate_users running about, activate_users running also, adopt_users keyed found,
    adopt_users keyed foundToo] at same
  have there := get?_of_resolve keyed foundToo
  have here := congrArg (·.get? userToo.id) same
  simp only [OrderedMap.get?_insert_self] at here
  rw [OrderedMap.get?_insert_of_ne _ _ different.symm, there] at here
  have paying : userToo.customerId = .text customer := by
    rw [Option.some.inj here]
    exact other.adopted_of_customer userToo also.payer
  have known : (store.customer? event).isSome := by
    rw [customer?, about.payer, Option.bind_some, List.find?_isSome]
    exact ⟨userToo, keyed.users.mem_values_iff.mpr there, beq_iff_eq.mpr paying⟩
  obtain ⟨owner, known⟩ := Option.isSome_iff_exists.mp known
  rw [resolve_eq, known] at found
  rw [resolve_eq, about.customer?_eq also, known] at foundToo
  cases found
  cases foundToo
  exact different rfl

theorem orderFree_of_nobody {details : SubscriptionDetails} {first second : ReconcileEvent}
    (nobody : store.resolve first = .ok none ∨ store.resolve second = .ok none) :
    store.OrderFree around details first second := by
  intro user other found foundToo
  rcases nobody with absent | absent
  · rw [absent] at found
    cases found
  · rw [absent] at foundToo
    cases foundToo

theorem sameAccess_iff_of_somebody (keyed : store.Keyed) (running : around.Running subscriptionId)
    (about : event.About customer subscriptionId) (also : other.About customer subscriptionId) {userToo : User}
    (found : store.resolve event = .ok (some user)) (foundToo : store.resolve other = .ok (some userToo)) :
    SameAccess (store.reconcile around event).2 (store.reconcile around other).2 ↔
      store.OrderFree around running.details event other := by
  by_cases same : user.id = userToo.id
  · have equal : user = userToo := by
      have here := get?_of_resolve keyed found
      rw [same, get?_of_resolve keyed foundToo] at here
      exact (Option.some.inj here).symm
    subst equal
    rw [reconcile_of_running running about found, reconcile_of_running running also foundToo,
      about.adopt_eq also, about.adopted_eq also, sameAccess_activate_iff running about also, agree_adopt]
    constructor
    · intro agree first second here there
      rw [found] at here
      rw [foundToo] at there
      cases here
      cases there
      exact ⟨rfl, agree⟩
    · intro free
      exact (free user user found foundToo).2
  · refine ⟨fun access => absurd access.users ?_, fun free => absurd (free user userToo found foundToo).1 same⟩
    exact users_of_different keyed running about also found foundToo same

theorem sameAccess_reconcile_iff (keyed : store.Keyed) (running : around.Running subscriptionId)
    (about : event.About customer subscriptionId) (also : other.About customer subscriptionId) :
    SameAccess ((store.reconcile around event).2.reconcile around other).2
        ((store.reconcile around other).2.reconcile around event).2 ↔
      store.OrderFree around running.details event other := by
  obtain ⟨first, found⟩ := store.exists_resolve event
  obtain ⟨second, foundToo⟩ := store.exists_resolve other
  cases first with
  | none =>
    -- The second event decides in both orders.
    apply iff_of_true _ (orderFree_of_nobody (.inl found))
    rw [reconcile_of_nobody found]
    cases second with
    | none =>
      rw [reconcile_of_nobody foundToo, reconcile_of_nobody found]
      exact .refl store
    | some user =>
      rw [reconcile_reconcile keyed running also about foundToo]
      exact .refl _
  | some user =>
    rw [reconcile_reconcile keyed running about also found]
    cases second with
    | none =>
      apply iff_of_true _ (orderFree_of_nobody (.inr foundToo))
      rw [reconcile_of_nobody foundToo]
      exact .refl _
    | some userToo =>
      rw [reconcile_reconcile keyed running also about foundToo]
      exact sameAccess_iff_of_somebody keyed running about also found foundToo

end MemoryStore

namespace Reconciliation

open MemoryStore

/-- Two events about one customer and one running subscription may be delivered in either order exactly if
they are about one user and agree on what is reset, or one of them is about nobody. -/
theorem delivery_order_iff {service : Service} {around : Surroundings} {store : MemoryStore}
    {customer subscriptionId : String} (placed : service.At around store) (keyed : store.Keyed)
    (running : around.Running subscriptionId) (first second : ReconcileEvent)
    (about : first.About customer subscriptionId) (also : second.About customer subscriptionId) :
    ∃ forth back,
      ((reconcile second).run ((reconcile first).run service).2).2.store = .memory forth ∧
      ((reconcile first).run ((reconcile second).run service).2).2.store = .memory back ∧
      (SameAccess forth back ↔ store.OrderFree around running.details first second) := by
  have forth := ((reconcile_evaluates second).run ((reconcile_evaluates first).run placed).2).2
  have back := ((reconcile_evaluates first).run ((reconcile_evaluates second).run placed).2).2
  exact ⟨_, _, forth.memory, back.memory, sameAccess_reconcile_iff keyed running about also⟩

def shopRunning : Sample.around.Running "sub_1" where
  subscription := Sample.normal "sub_1" "active" "prod_basic"
  start := Sample.march 0 32400
  finish := Sample.march 30 32400
  stated := Outcome.eq_ok_of_toOption (by decide +kernel)
  entitled := by decide
  begins := rfl
  ends := rfl
  ordered := Outcome.eq_ok_of_toOption (by decide +kernel)

theorem sample_about (source : EventSource) : (Sample.event source "sub_1").About "cus_1" "sub_1" :=
  ⟨rfl, rfl, rfl⟩

/-- A purchase may be announced by its checkout or by its invoice first. -/
theorem delivery_order_of_purchase :
    ∃ forth back,
      ((reconcile (Sample.event .invoicePaid "sub_1")).run
        ((reconcile (Sample.event .checkoutCompleted "sub_1")).run Sample.shop).2).2.store = .memory forth ∧
      ((reconcile (Sample.event .checkoutCompleted "sub_1")).run
        ((reconcile (Sample.event .invoicePaid "sub_1")).run Sample.shop).2).2.store = .memory back ∧
      SameAccess forth back := by
  obtain ⟨forth, back, there, here, same⟩ := delivery_order_iff Sample.shop_at Sample.store_keyed shopRunning
    (Sample.event .checkoutCompleted "sub_1") (Sample.event .invoicePaid "sub_1") (sample_about _) (sample_about _)
  have resolved : ∀ source, Sample.store.resolve (Sample.event source "sub_1") = .ok (some Sample.user) :=
    fun _ => rfl
  have checkoutResets : (Sample.store.decide Sample.around (Sample.event .checkoutCompleted "sub_1") Sample.user
      shopRunning.details).toOption.map (·.usageReset) = some true := by decide +kernel
  have invoiceResets : (Sample.store.decide Sample.around (Sample.event .invoicePaid "sub_1") Sample.user
      shopRunning.details).toOption.map (·.usageReset) = some true := by decide +kernel
  refine ⟨forth, back, there, here, same.mpr ?_⟩
  intro user other found foundToo
  rw [resolved] at found foundToo
  cases found
  cases foundToo
  refine ⟨rfl, fun decision reset decided decidedToo => .inl ?_⟩
  rw [decided] at checkoutResets
  rw [decidedToo] at invoiceResets
  exact (Option.some.inj checkoutResets).trans (Option.some.inj invoiceResets).symm

def basicAccess : Entitlement :=
  { userId := "u1", planId := "basic", expiresAt := Sample.march 30 32400, subscriptionId := "sub_1"
    priceId := "price_1", customerId := some "cus_1", cancelAtPeriodEnd := false
    createdAt := none, updatedAt := none }

def stored : UsageCounter :=
  ⟨"u1", .storageMb, .whole 7, Sample.march 0 32400, Sample.march 30 32400⟩

def moving : Service :=
  Sample.service (Sample.march 4 43200) ((Sample.store.addEntitlement basicAccess).addCounter stored)
    (Sample.tables "sub_1" "active" "prod_studio")

theorem moving_at :
    moving.At ((Sample.tables "sub_1" "active" "prod_studio").around (Sample.march 4 43200))
      ((Sample.store.addEntitlement basicAccess).addCounter stored) :=
  Sample.service_at _ _ _

/-- A change of plan resets the counters if it is announced as an update first. An invoice that comes first
saves the new plan, and the update finds no change any more. -/
theorem delivery_order_of_plan_change :
    ∃ forth back,
      ((reconcile (Sample.event .invoicePaid "sub_1")).run
        ((reconcile (Sample.event .subscriptionUpdated "sub_1")).run moving).2).2.store = .memory forth ∧
      ((reconcile (Sample.event .subscriptionUpdated "sub_1")).run
        ((reconcile (Sample.event .invoicePaid "sub_1")).run moving).2).2.store = .memory back ∧
      (forth.usage.get? stored.key).map (·.used) = some (.whole 0) ∧
      (back.usage.get? stored.key).map (·.used) = some (.whole 7) ∧ ¬ SameAccess forth back := by
  have forth := ((reconcile_evaluates (Sample.event .invoicePaid "sub_1")).run
    ((reconcile_evaluates (Sample.event .subscriptionUpdated "sub_1")).run moving_at).2).2
  have back := ((reconcile_evaluates (Sample.event .subscriptionUpdated "sub_1")).run
    ((reconcile_evaluates (Sample.event .invoicePaid "sub_1")).run moving_at).2).2
  have differ : ∀ first second : MemoryStore, (first.usage.get? stored.key).map (·.used) = some (.whole 0) →
      (second.usage.get? stored.key).map (·.used) = some (.whole 7) → ¬ SameAccess first second := by
    intro first second zeroed kept same
    rw [same.usage, kept] at zeroed
    cases zeroed
  refine ⟨_, _, forth.memory, back.memory, ?zeroed, ?kept, differ _ _ ?zeroed ?kept⟩
  case zeroed => decide +kernel
  case kept => decide +kernel

end Reconciliation

end PaidAccess
