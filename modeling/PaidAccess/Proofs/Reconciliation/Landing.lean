import PaidAccess.Proofs.Reconciliation.Triggers
import PaidAccess.Proofs.Service.Sample
/-!
An event about a subscription brings its user's access in line with what the provider's payload states,
whatever was stored before. The payload decides every field of the entitlement except for the time at which
it was created; if it lacks something that a grant needs, nothing of the access changes.
-/

namespace PaidAccess

open Reconciliation

namespace Payload.Statement

variable {payload : Value} (statement : Statement payload) (plans : OrderedMap String Plan)

/-- Whether a payload has all that access is granted on: a price, a product with a plan, and both bounds of a
period. -/
structure Grants (plan : Plan) (priceId : String) (finish : Int) : Prop where
  price : present? statement.priceId = some priceId
  sold : (present? statement.productId).bind plans.get? = some plan
  begins : statement.start.first.isSome
  ends : statement.finish.first = some finish

/-- Whether one of these is missing. -/
def Lacks : Prop :=
  present? statement.priceId = none ∨ (present? statement.productId).bind plans.get? = none ∨
    statement.start.first = none ∨ statement.finish.first = none

end Payload.Statement

namespace MemoryStore

variable {store : MemoryStore} {around : Surroundings} {event : ReconcileEvent} {user : User} {id : String}
  {payload : Value}

theorem createdAt_adopt (store : MemoryStore) (event : ReconcileEvent) (user : User) (now : DateTime) (userId : String) :
    (store.adopt event user).createdAt now userId = store.createdAt now userId := by
  rw [adopt_eq]
  rfl

section Stated

variable (real : event.simulated = false) (named : present? event.subscriptionId = some id)
  (answered : around.subscriptions (.text id) = .ok payload) (statement : Payload.Statement payload)

include real named answered in
theorem details_of_statement :
    around.details event = statement.normal.period.map statement.normal.details := by
  have stated : around.subscription (.ofText? event.subscriptionId) = .ok statement.normal := by
    rw [(present?_eq_some_iff.mp named).1]
    unfold Surroundings.subscription Value.ofText? Value.ofOption
    rw [answered]
    exact statement.subscription_eq
  unfold Surroundings.details
  simp only [real, stated, Bool.false_eq_true, ↓reduceIte, bind, Except.bind]
  cases statement.normal.period <;> rfl

variable {statement}

theorem period_of_entitled (entitled : StatusBucket.ofStatus statement.status = .entitled) {start finish : DateTime}
    (begins : statement.normal.start? = some start) (ends : statement.normal.finish? = some finish) :
    statement.normal.period = .ok (some start, some finish) := by
  have bucket : statement.normal.bucket = .entitled := entitled
  simp [ProviderSubscription.period, bucket, begins, ends]

theorem period_cases_of_entitled (entitled : StatusBucket.ofStatus statement.status = .entitled) :
    statement.normal.period = .ok (statement.normal.start?, statement.normal.finish?) ∨
      ∃ error : BillingError, statement.normal.period = .error (.billing error) ∧ error.kind = .internal := by
  have bucket : statement.normal.bucket = .entitled := entitled
  unfold ProviderSubscription.period
  simp only [bucket, ne_eq, not_true_eq_false, ↓reduceIte]
  split
  next => exact .inl rfl
  next => exact .inr ⟨_, rfl, rfl⟩

theorem period_of_other (other : StatusBucket.ofStatus statement.status ≠ .entitled) :
    statement.normal.period = .ok (statement.normal.periodStart, statement.normal.periodEnd) :=
  if_pos other

include real named answered

theorem deliver_of_grants (zoned : store.Zoned) (entitled : StatusBucket.ofStatus statement.status = .entitled)
    {customer : Option String} (paying : user.customerId = .ofText? customer) {plan : Plan} {priceId : String}
    {finish : Int} (grants : statement.Grants store.plans plan priceId finish) :
    ∃ result after expiresAt, DateTime.ofSeconds? finish = some expiresAt ∧
      store.deliver around event user = (.ok result, after) ∧ result.accessUpdated = true ∧
      after.entitlements = store.entitlements.insert user.id
        { userId := user.id, planId := plan.id, expiresAt := expiresAt, subscriptionId := id, priceId := priceId
          customerId := (present? event.customerId).or customer, cancelAtPeriodEnd := statement.cancels
          createdAt := store.createdAt around.now user.id, updatedAt := some around.now } := by
  obtain ⟨productId, product, sold⟩ := Option.bind_eq_some_iff.mp grants.sold
  obtain ⟨seconds, begins⟩ := Option.isSome_iff_exists.mp grants.begins
  obtain ⟨start, started⟩ := statement.exists_start begins
  obtain ⟨expiresAt, expires⟩ := statement.exists_finish grants.ends
  have starts : statement.normal.start? = some start := by
    rw [statement.start?_eq, begins]
    exact started
  have ends : statement.normal.finish? = some expiresAt := by
    rw [statement.finish?_eq, grants.ends]
    exact expires
  have known := details_of_statement real named answered statement
  rw [period_of_entitled entitled starts ends] at known
  have stated : around.subscription (.text id) = .ok statement.normal := by
    unfold Surroundings.subscription
    rw [answered]
    exact statement.subscription_eq
  obtain ⟨startUniversal, finishUniversal⟩ := Surroundings.period_universal stated
  have granted : grantOf (statement.normal.details (some start, some expiresAt)) =
      .ok ⟨productId, priceId, start, expiresAt⟩ :=
    grantOf_eq_ok_iff.mpr ⟨product, grants.price, rfl, rfl⟩
  obtain ⟨reset, after, activated, saved⟩ := activate_of_zoned around event (event.adopted user)
    (fun held => zoned.of_entitlements (store.adopt_entitlements event user) _ held) granted
    (by rw [adopt_plans]; exact sold) named (startUniversal start starts).zoned (finishUniversal expiresAt ends).zoned
    (payer_of_customer paying)
  have bucket : StatusBucket.ofStatus (statement.normal.details (some start, some expiresAt)).status = .entitled :=
    entitled
  rw [← settle_of_entitled bucket, ← deliver_of_details known] at activated
  refine ⟨_, after, expiresAt, expires, activated, rfl, ?_⟩
  simp only [saved, adopt_entitlements, event.adopted_id, createdAt_adopt, Decision.entitlement]
  rfl

variable (user) in
theorem deliver_of_lacks (entitled : StatusBucket.ofStatus statement.status = .entitled)
    (lacks : statement.Lacks store.plans) :
    ∃ (error : BillingError) (after : MemoryStore), store.deliver around event user = (.error (.billing error), after) ∧
      error.kind = .internal ∧ after.entitlements = store.entitlements ∧ after.usage = store.usage := by
  have known := details_of_statement real named answered statement
  rcases period_cases_of_entitled entitled with bounded | ⟨error, unbounded, internal⟩
  · rw [bounded] at known
    have lacking : ∀ grant,
        grantOf (statement.normal.details (statement.normal.start?, statement.normal.finish?)) = .ok grant →
        (store.adopt event user).plans.get? grant.productId = none := by
      intro grant granted
      obtain ⟨product, price, begins, ends⟩ := grantOf_eq_ok_iff.mp granted
      have product : present? statement.productId = some grant.productId := product
      have price : present? statement.priceId = some grant.priceId := price
      have begins : Payload.Counts.time statement.start.first = some grant.start := statement.start?_eq ▸ begins
      have ends : Payload.Counts.time statement.finish.first = some grant.finish := statement.finish?_eq ▸ ends
      rw [adopt_plans]
      rcases lacks with unpriced | unsold | unbegun | unended
      · rw [unpriced] at price
        cases price
      · rwa [product, Option.bind_some] at unsold
      · rw [unbegun] at begins
        cases begins
      · rw [unended] at ends
        cases ends
    obtain ⟨error, refused, internal⟩ := activate_of_lacking around event (event.adopted user) lacking
    have bucket : StatusBucket.ofStatus
        (statement.normal.details (statement.normal.start?, statement.normal.finish?)).status = .entitled := entitled
    rw [← settle_of_entitled bucket, ← deliver_of_details known] at refused
    exact ⟨error, _, refused, internal, store.adopt_entitlements event user, store.adopt_usage event user⟩
  · rw [unbounded] at known
    have refused : store.deliver around event user = (.error (.billing error), store.adopt event user) := by
      unfold deliver
      rw [known]
      rfl
    exact ⟨error, _, refused, internal, store.adopt_entitlements event user, store.adopt_usage event user⟩

variable (store user) in
theorem deliver_of_revoking (revoked : StatusBucket.ofStatus statement.status = .revoked) :
    ∃ result after, store.deliver around event user = (.ok result, after) ∧ result.accessUpdated = true ∧
      after.entitlements = store.entitlements.erase user.id ∧
      after.usage = store.usage.eraseWhere (·.userId == user.id) := by
  have known := details_of_statement real named answered statement
  rw [period_of_other (by rw [revoked]; decide)] at known
  have delivered : store.deliver around event user =
      (.ok ⟨some (event.adopted user), none, some statement.normal, true, false⟩,
        (store.adopt event user).revoke user.id) := by
    rw [deliver_of_details known, settle,
      show StatusBucket.ofStatus (statement.normal.details _).status = .revoked from revoked, event.adopted_id]
    rfl
  refine ⟨_, _, delivered, rfl, ?_, ?_⟩
  · rw [revoke, adopt_entitlements]
  · rw [revoke, adopt_usage]

variable (store user) in
theorem deliver_of_unknown (unknown : StatusBucket.ofStatus statement.status = .unknown) :
    ∃ result after, store.deliver around event user = (.ok result, after) ∧ result.accessUpdated = false ∧
      after.entitlements = store.entitlements ∧ after.usage = store.usage := by
  have known := details_of_statement real named answered statement
  rw [period_of_other (by rw [unknown]; decide)] at known
  have delivered : store.deliver around event user =
      (.ok ⟨some (event.adopted user), none, some statement.normal, false, false⟩, store.adopt event user) := by
    rw [deliver_of_details known, settle,
      show StatusBucket.ofStatus (statement.normal.details _).status = .unknown from unknown]
    rfl
  exact ⟨_, _, delivered, rfl, store.adopt_entitlements event user, store.adopt_usage event user⟩

end Stated

end MemoryStore

namespace Reconciliation

open MemoryStore

/-- An event about a subscription lands on what the provider's payload states, whatever was stored before. An
entitled status saves an entitlement of which only the time of its creation depends on the previous one, or is
refused as an internal error where the payload lacks a part of it; a status that revokes access takes it away,
and any other one leaves it. -/
theorem reconcile_lands {service : Service} {around : Surroundings} {store : MemoryStore} {event : ReconcileEvent}
    {user : User} {id : String} {customer : Option String} {payload : Value} (placed : service.At around store)
    (zoned : store.Zoned) (real : event.simulated = false) (named : present? event.subscriptionId = some id)
    (found : store.resolve event = .ok (some user)) (paying : user.customerId = .ofText? customer)
    (answered : around.subscriptions (.text id) = .ok payload) (statement : Payload.Statement payload) :
    ∃ outcome after, ((reconcile event).run service).1 = outcome ∧
      ((reconcile event).run service).2.store = .memory after ∧
      (StatusBucket.ofStatus statement.status = .entitled →
        (∀ plan priceId finish, statement.Grants store.plans plan priceId finish →
          ∃ result expiresAt, outcome = .ok result ∧ result.accessUpdated = true ∧
            DateTime.ofSeconds? finish = some expiresAt ∧
            after.entitlements = store.entitlements.insert user.id
              { userId := user.id, planId := plan.id, expiresAt := expiresAt, subscriptionId := id
                priceId := priceId, customerId := (present? event.customerId).or customer
                cancelAtPeriodEnd := statement.cancels, createdAt := store.createdAt around.now user.id
                updatedAt := some around.now }) ∧
        (statement.Lacks store.plans →
          ∃ error : BillingError, outcome = .error (.billing error) ∧ error.kind = .internal ∧
            after.entitlements = store.entitlements ∧ after.usage = store.usage)) ∧
      (StatusBucket.ofStatus statement.status = .revoked →
        ∃ result, outcome = .ok result ∧ result.accessUpdated = true ∧
          after.entitlements = store.entitlements.erase user.id ∧
          after.usage = store.usage.eraseWhere (·.userId == user.id)) ∧
      (StatusBucket.ofStatus statement.status = .unknown →
        ∃ result, outcome = .ok result ∧ result.accessUpdated = false ∧
          after.entitlements = store.entitlements ∧ after.usage = store.usage) := by
  obtain ⟨outcome, there⟩ := (reconcile_evaluates event).run placed
  rw [reconcile_of_resolve named found] at outcome there
  refine ⟨_, _, outcome, there.memory, fun entitled => ⟨?grants, ?lacks⟩, ?revoked, ?unknown⟩
  case grants =>
    intro plan priceId finish grants
    obtain ⟨result, after, expiresAt, expires, delivered, updated, saved⟩ :=
      deliver_of_grants real named answered zoned entitled paying grants
    rw [delivered]
    exact ⟨result, expiresAt, rfl, updated, expires, saved⟩
  case lacks =>
    intro lacks
    obtain ⟨error, after, refused, internal, kept⟩ :=
      deliver_of_lacks user real named answered entitled lacks
    rw [refused]
    exact ⟨error, rfl, internal, kept⟩
  case revoked =>
    intro revoked
    obtain ⟨result, after, delivered, updated, removed⟩ :=
      deliver_of_revoking store user real named answered revoked
    rw [delivered]
    exact ⟨result, rfl, updated, removed⟩
  case unknown =>
    intro unknown
    obtain ⟨result, after, delivered, updated, kept⟩ :=
      deliver_of_unknown store user real named answered unknown
    rw [delivered]
    exact ⟨result, rfl, updated, kept⟩

/-- What the provider states about the subscriptions of the sample. -/
def sampleStatement (id status product : String) : Payload.Statement (Sample.subscription id status product) where
  fields := [("id", .text id), ("customer", .text "cus_1"), ("status", .text status),
    ("current_period_start", Sample.stamp 0 32400), ("current_period_end", Sample.stamp 30 32400),
    ("items", .record [("data", .list [.record [("price",
      .record [("id", .text "price_1"), ("product", .text product)])]])])]
  items := [("data", .list [.record [("price", .record [("id", .text "price_1"), ("product", .text product)])]])]
  leading := some (.record [("price", .record [("id", .text "price_1"), ("product", .text product)])])
  item := [("price", .record [("id", .text "price_1"), ("product", .text product)])]
  metadata := []
  status := status
  customerId := some "cus_1"
  priceId := some "price_1"
  productId := some product
  start := ⟨some (1772323200 + 0 * 86400 + 32400), none, none⟩
  finish := ⟨some (1772323200 + 30 * 86400 + 32400), none, none⟩
  opens := .record _
  lists := .record _
  leads := .list [_]
  leader := .record _
  tagged := .null
  stands := rfl
  pays := .text _
  priced := .object (.record _) rfl (.text _)
  begins := .seconds (by decide) (by decide)
  ends := .seconds (by decide) (by decide)
  itemBegins := .null
  itemEnds := .null
  billed := .object .null .null .null .null .null .null .null

/-- A checkout lands on what was bought. -/
theorem reconcile_lands_checkout :
    ∃ result after, ((reconcile Sample.checkout).run Sample.shop).1 = .ok result ∧
      ((reconcile Sample.checkout).run Sample.shop).2.store = .memory after ∧
      after.entitlements.get? "u1" = some
        { userId := "u1", planId := "basic", expiresAt := Sample.march 30 32400, subscriptionId := "sub_1"
          priceId := "price_1", customerId := some "cus_1", cancelAtPeriodEnd := false
          createdAt := some (Sample.march 0 36000), updatedAt := some (Sample.march 0 36000) } := by
  have zoned : Sample.store.Zoned := fun _ _ found => by cases found
  have grants : (sampleStatement "sub_1" "active" "prod_basic").Grants Sample.store.plans Sample.basic "price_1"
      (1772323200 + 30 * 86400 + 32400) := ⟨rfl, by decide +kernel, rfl, rfl⟩
  obtain ⟨outcome, after, reported, stored, entitled, -⟩ := reconcile_lands Sample.shop_at zoned rfl
    (show present? Sample.checkout.subscriptionId = some "sub_1" from rfl)
    (show Sample.store.resolve Sample.checkout = .ok (some Sample.user) from rfl)
    (show Sample.user.customerId = .ofText? (some "cus_1") from rfl) rfl (sampleStatement "sub_1" "active" "prod_basic")
  obtain ⟨result, expiresAt, succeeded, -, expires, saved⟩ := (entitled (by decide)).1 _ _ _ grants
  have last : DateTime.ofSeconds? (1772323200 + 30 * 86400 + 32400) = some (Sample.march 30 32400) := by decide +kernel
  rw [last] at expires
  cases expires
  refine ⟨result, after, reported.trans succeeded, stored, ?_⟩
  rw [saved]
  exact OrderedMap.get?_insert_self _ _ _

end Reconciliation

end PaidAccess
