import PaidAccess.Checkout
import PaidAccess.Proofs.Store.Isolation
import PaidAccess.Proofs.Reconciliation.Announcement
import PaidAccess.Proofs.Reconciliation.Ownership
import PaidAccess.Proofs.Service.Sample
/-!
Calls concern one user. Whatever a call is given, whatever the provider answers and whatever calls of the store or of
the provider fail on the way, what belongs to anybody but the user that the call concerns is the same afterwards, and
so are the plans. The user is found before anything is changed, so who it is can be told from the store and the input.
-/

namespace PaidAccess

open PaidAccess.Action

def MemoryStore.requester (store : MemoryStore) (userId email : Value) : Outcome (Option User) := do
  match ← (if userId.truthy then store.findUser .null userId else .ok none) with
  | some user => return some user
  | none => return if email.truthy then store.users.values.find? fun user => email.isText? user.email else none

/-- Whether an action at a store in memory leaves alone what belongs to anybody but one user, and what holds of a value
that it returns and the store that it leaves. -/
def Confined {α : Type} (who : Option String) (store : MemoryStore) (action : Action α)
    (returns : α → MemoryStore → Prop) : Prop :=
  ∀ service : Service, service.store = .memory store → ∃ after, (action.run service).2.store = .memory after ∧
    store.SameButFor who after ∧ ∀ value, (action.run service).1 = .ok value → returns value after

namespace Confined

variable {α β : Type} {who : Option String} {store : MemoryStore} {action : Action α}
  {returns : α → MemoryStore → Prop}

theorem returning (confined : Confined who store action returns) {gives : α → MemoryStore → Prop}
    (weaker : ∀ value after, returns value after → gives value after) : Confined who store action gives := by
  intro service memory
  obtain ⟨after, left, same, returned⟩ := confined service memory
  exact ⟨after, left, same, fun value ran => weaker value after (returned value ran)⟩

theorem bind {next : α → Action β} {gives : β → MemoryStore → Prop} (first : Confined who store action returns)
    (rest : ∀ value between, returns value between → Confined who between (next value) gives) :
    Confined who store (action >>= next) gives := by
  intro service memory
  obtain ⟨between, left, same, returned⟩ := first service memory
  rw [run_bind]
  rcases ran : action.run service with ⟨failure | value, middle⟩ <;> rw [ran] at left returned
  · exact ⟨between, left, same, nofun⟩
  · obtain ⟨after, leftToo, sameToo, returnedToo⟩ := rest value between (returned value rfl) middle left
    exact ⟨after, leftToo, same.trans sameToo, returnedToo⟩

theorem recover {handler : Failure → Action α} (first : Confined who store action returns)
    (rest : ∀ failure between, Confined who between (handler failure) returns) :
    Confined who store (Action.recover action handler) returns := by
  intro service memory
  obtain ⟨between, left, same, returned⟩ := first service memory
  rw [run_recover]
  rcases ran : action.run service with ⟨failure | value, middle⟩ <;> rw [ran] at left returned
  · obtain ⟨after, leftToo, sameToo, returnedToo⟩ := rest failure between middle left
    exact ⟨after, leftToo, same.trans sameToo, returnedToo⟩
  · exact ⟨between, left, same, returned⟩

theorem lift {outcome : Outcome α} (returned : ∀ value, outcome = .ok value → returns value store) :
    Confined who store (Action.lift outcome) returns :=
  fun _ memory => ⟨store, memory, .refl who store, returned⟩

theorem pure {value : α} (done : returns value store) : Confined who store (Pure.pure value : Action α) returns := by
  refine fun _ memory => ⟨store, memory, .refl who store, ?_⟩
  rintro _ ⟨⟩
  exact done

theorem refuse (failure : Failure) : Confined who store (Action.fail failure : Action α) returns := .lift nofun

theorem of_scripted (scripted : Scripted false action) : Confined who store action fun _ after => after = store :=
  fun _ memory => ⟨store, (scripted.quiet (.refl memory)).1.memory, .refl who store, fun _ _ => rfl⟩

theorem perform {op : StoreOp} (within : store.touched op = none ∨ store.touched op = who) :
    Confined who store (Action.perform op) fun value after => ∃ now, store.apply now op = (.ok value, after) := by
  intro service memory
  obtain ⟨left, ran, core, -⟩ := reaches_perform memory op
  have same : store.SameButFor who (store.apply service.now op).2 := by
    have same := store.apply_sameButFor service.now op
    rcases within with nobody | them
    · rw [nobody] at same
      exact same.of_none who
    · rw [them] at same
      exact same
  rw [ran]
  unfold Core.perform at core ⊢
  split
  next planned =>
    rw [planned] at core
    exact ⟨store, (congrArg Core.store core).trans memory, .refl who store, nofun⟩
  next passes =>
    rw [passes] at core
    exact ⟨_, congrArg Core.store core, same, fun value succeeds => ⟨service.now, Prod.ext succeeds rfl⟩⟩

section Sequence

variable {next : α → Action β} {gives : β → MemoryStore → Prop}

theorem quietly (scripted : Scripted false action) (rest : ∀ value, Confined who store (next value) gives) :
    Confined who store (action >>= next) gives :=
  .bind (.of_scripted scripted) fun value _ same => same ▸ rest value

theorem knowing {outcome : Outcome α} (rest : ∀ value, outcome = .ok value → Confined who store (next value) gives) :
    Confined who store (Action.lift outcome >>= next) gives := by
  have lifted : Confined who store (Action.lift outcome) fun value after => outcome = .ok value ∧ after = store :=
    .lift fun _ known => ⟨known, rfl⟩
  exact lifted.bind fun value _ ⟨known, same⟩ => same ▸ rest value known

theorem reading {view : Service → α} (rest : ∀ value, Confined who store (next value) gives) :
    Confined who store (Action.read view >>= next) gives :=
  .bind (fun _ memory => ⟨store, memory, .refl who store, fun _ _ => Eq.refl store⟩)
    fun value _ same => same ▸ rest value

theorem looking {op : StoreOp} {next : op.Result → Action β} (reads : op.method.reads = true)
    (rest : ∀ value now, (store.apply now op).1 = .ok value → Confined who store (next value) gives) :
    Confined who store (Action.perform op >>= next) gives := by
  have nobody : store.touched op = none := by
    cases op <;> first | rfl | cases reads
  refine .bind (.perform (.inl nobody)) fun value after ⟨now, looked⟩ => ?_
  have same := MemoryStore.apply_of_reads reads now store
  rw [looked] at same
  subst same
  exact rest value now (by rw [looked])

theorem writing {op : StoreOp} {next : op.Result → Action β} (within : store.touched op = who)
    (rest : ∀ value left, Confined who left (next value) gives) :
    Confined who store (Action.perform op >>= next) gives :=
  .bind (.perform (.inr within)) fun value left _ => rest value left

theorem refusing {failure : Failure} : Confined who store (Action.fail failure >>= next) gives :=
  .knowing nofun

theorem notifying {userId kind : String} {data : Fields} {next : Unit → Action β}
    (rest : Confined who store (next ()) gives) :
    Confined who store (Delivery.notify userId kind data >>= next) gives := by
  intro service memory
  rw [run_bind, service.run_notify userId kind data]
  exact rest _ ((congrArg Core.store (service.core_told userId _)).trans memory)

end Sequence

section Reconciliation

open Reconciliation

variable {event : ReconcileEvent} {user : User} {details : SubscriptionDetails} {bound : Fields}

theorem guarded (confined : Confined who store action returns) (bound : Fields) (event : ReconcileEvent) :
    Confined who store (guarded bound event action) returns := by
  refine .recover confined fun failure between => ?_
  cases failure with
  | billing error => exact .quietly (.log _) fun _ => .refuse _
  | _ => exact .quietly (.log _) fun _ => .refuse _

theorem adoptCustomer (event : ReconcileEvent) (user : User) :
    Confined (some user.id) store (adoptCustomer event user) fun adopted _ => adopted.id = user.id := by
  unfold Reconciliation.adoptCustomer
  split
  next => exact .pure rfl
  next =>
    split
    next => exact .pure rfl
    next => exact .writing rfl fun _ _ => .pure rfl

theorem activate : Confined (some user.id) store (activate event user details bound) fun _ _ => True := by
  unfold Reconciliation.activate
  refine .quietly (.lift _) fun grant => .looking rfl fun plan _ _ => ?_
  cases plan with
  | none => exact .refuse _
  | some plan =>
    refine .quietly .now fun now => .quietly (.lift _) fun subscriptionId => .looking rfl fun previous _ _ => ?_
    refine .quietly (.remarkRegression _ _ _) fun _ => .quietly (.lift _) fun usageReset => ?_
    have entered : ∀ left, Confined (some user.id) left
        (Reconciliation.enter event user details bound ⟨grant, plan, subscriptionId, usageReset⟩) fun _ _ => True :=
      fun left => .quietly (.lift _) fun customerId => .writing rfl fun _ _ => .quietly (.log _) fun _ =>
        .notifying (.pure trivial)
    split
    next => exact .writing rfl fun _ left => entered left
    next => exact entered store

theorem deactivate : Confined (some user.id) store (deactivate user details bound) fun _ _ => True :=
  .writing rfl fun _ _ => .quietly (.log _) fun _ => .notifying (.pure trivial)

theorem settle : Confined (some user.id) store (settle event user bound) fun _ _ => True := by
  refine .bind (.adoptCustomer event user) fun adopted left same => .quietly (.details event) fun details => ?_
  rw [← same]
  split
  next => exact .activate
  next => exact .deactivate
  next => exact .quietly (.log _) fun _ => .pure trivial

theorem skip (event : ReconcileEvent) (reason : String) : Confined who store (skip event reason) fun _ _ => True :=
  .quietly (.log _) fun _ => .pure trivial

theorem reconcile (concerned : ∀ user, store.resolve event = .ok (some user) → who = some user.id) :
    Confined who store (reconcile event) fun _ _ => True := by
  have found : Confined who store (findUser event.customerId event.userReference) fun found after =>
      after = store ∧ store.resolve event = .ok found :=
    (perform (.inl rfl)).returning fun _ _ ⟨_, looked⟩ => ⟨(congrArg Prod.snd looked).symm, congrArg Prod.fst looked⟩
  refine .quietly (.log _) fun _ => ?_
  split
  next => exact .skip event _
  next =>
    split
    next => exact .skip event _
    next =>
      refine .bind (.guarded found _ event) fun resolved left ⟨same, known⟩ => ?_
      subst same
      cases resolved with
      | none => exact .skip event _
      | some user =>
        rw [concerned user known]
        exact .guarded .settle _ event

theorem reconcileRenewal {invoice : Value}
    (concerned : ∀ event user, renewalEvent invoice = .ok (some event) → store.resolve event = .ok (some user) →
      who = some user.id) :
    Confined who store (reconcileRenewal invoice) fun _ _ => True := by
  refine .knowing fun fields read => .knowing fun subscription billed => .knowing fun customer paying => ?_
  refine .knowing fun reference referring => .knowing fun ids identified => ?_
  rcases ids with _ | ⟨subscriptionId, customerId⟩
  · exact .quietly (.log _) fun _ => .pure trivial
  · refine .knowing fun reference named => ?_
    have announced : renewalEvent invoice =
        .ok (some (.of .invoicePaid (some customerId) (some subscriptionId) reference)) := by
      unfold renewalEvent
      simp only [read, billed, paying, referring, identified, named, Bind.bind, Except.bind]
      rfl
    refine .bind (.reconcile fun user => concerned _ user announced) fun result _ _ => ?_
    split
    next => exact .quietly (.log _) fun _ => .pure trivial
    next => exact .quietly (.log _) fun _ => .pure trivial

theorem reconcileCancellation {subscription : Value}
    (named : ∀ (fields : Fields) (user : User), subscription = .record fields →
      store.cancelledBy fields = .ok (some user) → who = some user.id)
    (owned : ∀ fields : Fields, subscription = .record fields → store.cancelledBy fields = .ok none →
      who = store.ownerOf (.text (fields.get "id").display)) :
    Confined who store (reconcileCancellation subscription) fun _ _ => True := by
  refine .knowing fun fields read => ?_
  have record : subscription = .record fields := by
    cases subscription with
    | record => exact congrArg Value.record (Except.ok.inj read)
    | _ => cases read
  dsimp only
  split
  next => exact .quietly (.log _) fun _ => .pure trivial
  next =>
    refine .knowing fun customer paying => .knowing fun reference referring => ?_
    have looked : Confined who store (cancelledUser customer reference) fun found after =>
        after = store ∧ store.cancelledBy fields = .ok found := by
      unfold MemoryStore.cancelledBy cancelledUser MemoryStore.cancelled
      simp only [paying, referring, Bind.bind, Except.bind]
      split
      next =>
        exact (perform (.inl rfl)).returning fun _ _ ⟨_, looked⟩ =>
          ⟨(congrArg Prod.snd looked).symm, congrArg Prod.fst looked⟩
      next => exact .pure ⟨rfl, rfl⟩
    refine .bind looked fun found left ⟨same, known⟩ => ?_
    subst same
    cases found with
    | some user =>
      rw [named fields user record known]
      exact .writing rfl fun _ _ => .quietly (.log _) fun _ => .notifying (.pure trivial)
    | none =>
      rw [owned fields record known]
      refine .quietly (.log _) fun _ => .bind (.perform (.inr rfl)) fun owner after ⟨_, removed⟩ => ?_
      cases owner with
      | none => exact .quietly (.log _) fun _ => .pure trivial
      | some owner =>
        have told : (left.revokeSubscription (.text (Fields.get "id" fields).display)).1 = some owner :=
          Except.ok.inj (congrArg Prod.fst removed)
        rw [← left.revokeSubscription_owner, told]
        exact .writing rfl fun _ _ => .quietly (.log _) fun _ => .pure trivial

end Reconciliation

section Checkout

open Checkout

theorem resolveUser (userId email : Value) :
    Confined who store (resolveUser userId email) fun found after =>
      after = store ∧ store.requester userId email = .ok found := by
  have byEmail : Confined who store
      (if email.truthy then Action.perform (.findUserByEmail email) else Pure.pure none : Action (Option User))
      fun found after => after = store ∧ Except.ok
        (if email.truthy then store.users.values.find? fun user => email.isText? user.email else none) =
          (.ok found : Outcome (Option User)) := by
    split
    next =>
      exact (perform (.inl rfl)).returning fun _ _ ⟨_, looked⟩ =>
        ⟨(congrArg Prod.snd looked).symm, congrArg Prod.fst looked⟩
    next => exact .pure ⟨rfl, rfl⟩
  unfold Checkout.resolveUser MemoryStore.requester
  dsimp only
  split
  next =>
    refine .looking rfl fun found _ known => ?_
    have known : store.findUser .null userId = .ok found := known
    rw [known]
    cases found with
    | some user => exact .pure ⟨rfl, rfl⟩
    | none => exact byEmail
  next =>
    rw [pure_bind]
    exact byEmail

theorem adopt {user : Option User} (concerned : ∀ found, user = some found → who = some found.id)
    (customerId : String) : Confined who store (adopt user customerId) fun _ _ => True := by
  unfold Checkout.adopt
  cases user with
  | none => exact .pure trivial
  | some user => exact .writing (concerned user rfl).symm fun _ _ => .pure trivial

theorem resolveCustomer {user : Option User} (concerned : ∀ found, user = some found → who = some found.id)
    (userId email : Value) : Confined who store (resolveCustomer user userId email) fun _ _ => True := by
  unfold Checkout.resolveCustomer
  split
  next => exact .pure trivial
  next => exact .pure trivial
  next =>
    refine .quietly (.bind (.ask _) fun _ => .lift _) fun customers => ?_
    cases customers with
    | cons existing rest => exact .bind (.adopt concerned existing) fun _ _ _ => .pure trivial
    | nil =>
      refine .quietly (.bind (.askOrRefuse _ _ _ _) fun _ => .bind (.lift _) fun _ => .pure _) fun created => ?_
      exact .bind (.adopt concerned created) fun _ _ _ => .pure trivial

theorem createPortal (customerId returnUrl : Value) :
    Confined who store (ProviderClient.createPortal customerId returnUrl) fun _ _ => True :=
  .reading fun _ => .quietly (.askOrRefuse _ _ _ _) fun _ => .lift fun _ _ => trivial

theorem createCheckout (priceId customerId customerEmail userId successUrl cancelUrl : Value) :
    Confined who store (ProviderClient.createCheckout priceId customerId customerEmail userId successUrl cancelUrl)
      fun _ _ => True :=
  .reading fun _ => .quietly (.askOrRefuse _ _ _ _) fun _ => .lift fun _ _ => trivial

theorem openPortal (user : User) (customerId : Value) (bound : Fields) :
    Confined who store (openPortal user customerId bound) fun _ _ => True :=
  .quietly (.log _) fun _ => .bind (.createPortal _ _) fun _ _ _ => .lift fun _ _ => trivial

theorem checkPrice (priceId : Value) (bound : Fields) :
    Confined who store (checkPrice priceId bound) fun _ _ => True := by
  refine .recover (.quietly (.retrievePrice _) fun _ => .pure trivial) fun failure left => ?_
  cases failure with
  | billing error => exact .quietly (.log _) fun _ => .refuse _
  | _ => exact .refuse _

theorem schedule (sessionId priceId customerId userId : Value) :
    Confined who store (schedule sessionId priceId customerId userId) fun _ _ => True :=
  .reading fun _ => .quietly (.log _) fun _ => fun _ memory => ⟨_, memory, .refl who _, fun _ _ => trivial⟩

theorem openCheckout (priceId customerId email reference : Value) (bound : Fields) :
    Confined who store (openCheckout priceId customerId email reference bound) fun _ _ => True := by
  refine .bind (.checkPrice priceId bound) fun _ _ _ => .bind (.createCheckout _ _ _ _ _ _) fun session _ _ => ?_
  refine .quietly (.log _) fun _ => .reading fun config => ?_
  dsimp only
  split
  next => exact .bind (.schedule _ _ _ _) fun _ _ _ => .lift fun _ _ => trivial
  next => exact .lift fun _ _ => trivial

theorem isSubscribed (user : Option User) : Confined who store (isSubscribed user) fun _ _ => True := by
  unfold Checkout.isSubscribed
  cases user with
  | none => exact .pure trivial
  | some user =>
    refine .looking rfl fun held _ _ => ?_
    cases held with
    | none => exact .pure trivial
    | some entitlement => exact .quietly .now fun _ => .quietly (.lift _) fun _ => .pure trivial

theorem start {priceId email userId : Value}
    (concerned : ∀ user, store.requester userId email = .ok (some user) → who = some user.id) :
    Confined who store (start priceId email userId) fun _ _ => True := by
  refine .quietly (.log _) fun _ => .bind (.resolveUser userId email) fun user left ⟨same, known⟩ => ?_
  subst same
  have them : ∀ found, user = some found → who = some found.id := by
    rintro found rfl
    exact concerned found known
  refine .bind (.resolveCustomer them userId email) fun customerId _ _ => ?_
  dsimp only
  split
  next => exact .refusing
  next =>
    refine .bind (.isSubscribed user) fun subscribed _ _ => ?_
    split
    next => exact .openPortal _ _ _
    next => exact .openCheckout _ _ _ _ _

end Checkout

section Credits

open Credits

theorem unexpired (userId : Value) (now : DateTime) :
    Confined who store (unexpired userId now) fun entitlement after =>
      after = store ∧ ∃ id, userId = .text id ∧ store.entitlements.get? id = some entitlement := by
  refine .looking rfl fun found _ known => ?_
  cases found with
  | none => exact .refuse _
  | some entitlement =>
    refine .quietly (.lift _) fun expired => ?_
    dsimp only
    split
    next => exact .refusing
    next => exact .pure ⟨rfl, MemoryStore.text_of_atKey known⟩

theorem quota (planId : String) : Confined who store (quota planId) fun _ _ => True := by
  refine .looking rfl fun plan _ _ => ?_
  split
  next => exact .refuse _
  next => exact .pure trivial

theorem todaysCounter {entitlement : Entitlement} {now : DateTime} (owner : some entitlement.userId = who) :
    Confined who store (todaysCounter entitlement now) fun _ _ => True := by
  refine .looking rfl fun found _ _ => ?_
  cases found with
  | some counter => exact .pure trivial
  | none =>
    refine .quietly (.lift _) fun (start, finish) => ?_
    have opens : store.touched (.openCounter (.text entitlement.userId) .aiCredits (some start) (some finish)) = who :=
      owner
    exact (perform (.inr opens)).returning fun _ _ _ => trivial

theorem consume {userId : Value} (keyed : store.Keyed) (amount : Amount) :
    Confined userId.named? store (consume userId amount) fun _ _ => True := by
  unfold Credits.consume
  dsimp only
  split
  next => exact .refusing
  next =>
    refine .quietly .now fun now => .bind (.unexpired userId now) fun entitlement left ⟨same, id, named, held⟩ => ?_
    subst same named
    have owner : entitlement.userId = id := keyed.entitlements.name_eq held
    refine .bind (.quota _) fun limit left _ => .bind (.todaysCounter (congrArg some owner)) fun counter left _ => ?_
    refine .writing rfl fun updated left => ?_
    cases updated with
    | none => exact .quietly (.log _) fun _ => .refuse _
    | some updated => exact .quietly (.log _) fun _ => .lift fun _ _ => trivial

end Credits

theorem handle {announced : Value}
    (asked : ∀ change, Webhook.reading announced = .ok (some change) →
      Confined who store change.action fun _ _ => True) :
    Confined who store (Webhook.handle announced) fun _ _ => True := by
  intro service memory
  have ends : (Webhook.handle announced).Ends service
      (fun _ after => ∃ left, after.store = .memory left ∧ store.SameButFor who left)
      (fun _ after => ∃ left, after.store = .memory left ∧ store.SameButFor who left) := by
    refine Webhook.handle_ends ⟨fun _ _ => ⟨store, memory, .refl who store⟩, fun _ entries => ?_, ?_⟩
    · exact ⟨store, (service.store_foldl_logged entries).trans memory, .refl who store⟩
    · intro change asks
      obtain ⟨left, stays, same, -⟩ := asked change asks service memory
      constructor
      · intro value after ran entries
        rw [ran] at stays
        exact ⟨left, (after.store_foldl_logged entries).trans stays, same⟩
      · intro failure after ran
        rw [ran] at stays
        exact ⟨left, stays, same⟩
  rcases ran : (Webhook.handle announced).run service with ⟨failure | value, after⟩
  · obtain ⟨left, stays, same⟩ := ends.raised failure after ran
    exact ⟨left, stays, same, nofun⟩
  · obtain ⟨left, stays, same⟩ := ends.returned value after ran
    exact ⟨left, stays, same, fun _ _ => trivial⟩

end Confined

/-- A call of the service that can change what users have. -/
inductive BillingCall where
  | event (event : ReconcileEvent)
  | renewal (invoice : Value)
  | cancellation (subscription : Value)
  | announcement (event : Value)
  | checkout (priceId email userId : Value)
  | spend (userId : Value) (amount : Amount)

def BillingCall.action : BillingCall → Action Unit
  | .event changed => discard (Reconciliation.reconcile changed)
  | .renewal invoice => discard (Reconciliation.reconcileRenewal invoice)
  | .cancellation subscription => discard (Reconciliation.reconcileCancellation subscription)
  | .announcement announced => discard (Webhook.handle announced)
  | .checkout priceId email userId => discard (Checkout.start priceId email userId)
  | .spend userId amount => discard (Credits.consume userId amount)

namespace MemoryStore

def concernedBy (store : MemoryStore) (event : ReconcileEvent) : Option String :=
  (store.resolve event).toOption.join.map User.id

def concernedByCancelled (store : MemoryStore) : Value → Option String
  | .record fields =>
      match store.cancelledBy fields with
      | .ok (some user) => some user.id
      | .ok none => store.ownerOf (.text (Fields.get "id" fields).display)
      | .error _ => none
  | _ => none

def concernedByChange (store : MemoryStore) : AccessChange → Option String
  | .event event => store.concernedBy event
  | .cancellation subscription => store.concernedByCancelled subscription

/-- The user that a call concerns, if it concerns any. -/
def concerned (store : MemoryStore) : BillingCall → Option String
  | .event event => store.concernedBy event
  | .renewal invoice => (Reconciliation.renewalEvent invoice).toOption.join.bind store.concernedBy
  | .cancellation subscription => store.concernedByCancelled subscription
  | .announcement event => (Webhook.reading event).toOption.join.bind store.concernedByChange
  | .checkout _ email userId => (store.requester userId email).toOption.join.map User.id
  | .spend userId _ => userId.named?

end MemoryStore

namespace Confined

variable {store : MemoryStore}

theorem discarded {α : Type} {who : Option String} {action : Action α} {returns : α → MemoryStore → Prop}
    (confined : Confined who store action returns) : Confined who store (discard action) fun _ _ => True :=
  .bind confined fun _ _ _ => .pure trivial

theorem event (event : ReconcileEvent) :
    Confined (store.concernedBy event) store (Reconciliation.reconcile event) fun _ _ => True :=
  .reconcile fun user resolved => by
    rw [MemoryStore.concernedBy, resolved]
    rfl

theorem cancellation (subscription : Value) :
    Confined (store.concernedByCancelled subscription) store (Reconciliation.reconcileCancellation subscription)
      fun _ _ => True := by
  refine .reconcileCancellation ?_ ?_
  · rintro fields user rfl named
    rw [MemoryStore.concernedByCancelled, named]
  · rintro fields rfl unnamed
    rw [MemoryStore.concernedByCancelled, unnamed]

theorem change (change : AccessChange) :
    Confined (store.concernedByChange change) store change.action fun _ _ => True := by
  cases change with
  | event changed => exact (event changed).discarded
  | cancellation subscription => exact (cancellation subscription).discarded

theorem call (keyed : store.Keyed) (call : BillingCall) :
    Confined (store.concerned call) store call.action fun _ _ => True := by
  cases call with
  | event changed => exact (event changed).discarded
  | renewal invoice =>
    refine discarded (.reconcileRenewal fun changed user announced resolved => ?_)
    simp [MemoryStore.concerned, MemoryStore.concernedBy, announced, resolved, Except.toOption]
  | cancellation subscription => exact (cancellation subscription).discarded
  | announcement announced =>
    refine discarded (.handle fun asked read => ?_)
    simpa [MemoryStore.concerned, read, Except.toOption] using change asked
  | checkout priceId email userId =>
    refine discarded (.start fun user requested => ?_)
    simp [MemoryStore.concerned, requested, Except.toOption]
  | spend userId amount => exact discarded (.consume keyed amount)

end Confined

/-- Whatever fails on the way, a call changes nothing of the plans, and of what users have at most what the user that
it concerns has. -/
theorem call_isolated {service : Service} {store : MemoryStore} (memory : service.store = .memory store)
    (keyed : store.Keyed) (call : BillingCall) :
    ∃ after, (call.action.run service).2.store = .memory after ∧ store.SameButFor (store.concerned call) after := by
  obtain ⟨after, left, same, -⟩ := Confined.call keyed call service memory
  exact ⟨after, left, same⟩

namespace Sample

def neighbor : Entitlement where
  userId := "u2"
  planId := "studio"
  expiresAt := march 30 0
  subscriptionId := "sub_2"
  priceId := "price_2"
  customerId := some "cus_2"
  cancelAtPeriodEnd := false
  createdAt := none
  updatedAt := none

def sharedStore : MemoryStore := (store.addUser ⟨"u2", none, none, .text "cus_2"⟩).addEntitlement neighbor

def sharedShop : Service :=
  (service (march 0 36000) sharedStore (tables "sub_1" "active" "prod_basic")).plan (.store .saveEntitlement)
    [some (.connection "store is away")]

end Sample

theorem call_isolated_checkout :
    Sample.sharedStore.concerned (.event Sample.checkout) = some "u1" ∧
    ∃ after, ((BillingCall.event Sample.checkout).action.run Sample.sharedShop).2.store = .memory after ∧
      after.resetsOf "u1" ≠ Sample.sharedStore.resetsOf "u1" ∧ after.entitlements.get? "u2" = some Sample.neighbor := by
  have concerned : Sample.sharedStore.concerned (.event Sample.checkout) = some "u1" := by decide +kernel
  have keyed : Sample.sharedStore.Keyed := (Sample.store_keyed.addUser _).addEntitlement _
  have memory : Sample.sharedShop.store = .memory Sample.sharedStore := rfl
  obtain ⟨after, left, same⟩ := call_isolated memory keyed (.event Sample.checkout)
  have reset : ((((BillingCall.event Sample.checkout).action.run Sample.sharedShop).2.memory?.map
      fun after => (after.resetsOf "u1").length)) = some 1 := by
    decide +kernel
  refine ⟨concerned, after, left, fun unchanged => ?_, (same.others "u2" ?_).entitlement⟩
  · simp only [Service.memory?, left, Option.map_some, unchanged] at reset
    cases reset
  · rw [concerned]
    decide

end PaidAccess
