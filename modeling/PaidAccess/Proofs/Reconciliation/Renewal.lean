import PaidAccess.Proofs.Provider.Invoice
import PaidAccess.Proofs.Provider.Period
import PaidAccess.Proofs.Reconciliation.DeliveryOrder
import PaidAccess.Proofs.Reconciliation.Triggers
/-!
The course of one subscription. Its period only moves forward, and each period may be announced many times,
by paid invoices and by updates. The expiry that is stored is the end of the period that was observed last,
so a delivery resets usage exactly if it is the first to observe its period.
-/

namespace PaidAccess

open Reconciliation

inductive Announcement (subscriptionId : String) where
  | invoice {fields : Fields} {customerId : String} (bill : Payload.Bill fields subscriptionId customerId)
  | update (event : ReconcileEvent) (source : event.source = .subscriptionUpdated) (real : event.simulated = false)
      (subject : present? event.subscriptionId = some subscriptionId)

namespace Announcement

variable {subscriptionId : String} (announcement : Announcement subscriptionId)

def event : Announcement subscriptionId → ReconcileEvent
  | .invoice bill => bill.event
  | .update event .. => event

def action : Announcement subscriptionId → Action (Option ReconciliationResult)
  | @invoice _ fields _ _ => reconcileRenewal (.record fields)
  | .update event .. => do
      let result ← reconcile event
      return some result

theorem real : announcement.event.simulated = false := by
  cases announcement with
  | invoice bill => rfl
  | update event source real subject => exact real

theorem subject : present? announcement.event.subscriptionId = some subscriptionId := by
  cases announcement with
  | invoice bill =>
    exact present?_eq_some_iff.mpr ⟨rfl, ne_empty_of_hasBeginning (by decide) bill.isSubscription⟩
  | update event source real subject => exact subject

theorem source : announcement.event.source = .invoicePaid ∨ announcement.event.source = .subscriptionUpdated := by
  cases announcement with
  | invoice bill => exact .inl rfl
  | update event source real subject => exact .inr source

theorem action_evaluates (around : Surroundings) (store : MemoryStore) :
    Evaluates around store announcement.action
      ((store.reconcile around announcement.event).2.proceed (store.reconcile around announcement.event).1
        fun result => (.ok (some result), (store.reconcile around announcement.event).2)) := by
  cases announcement with
  | @invoice fields _ bill =>
    have evaluates := @reconcileRenewal_evaluates around store (.record fields)
    unfold MemoryStore.renew at evaluates
    rw [bill.renewalEvent_eq] at evaluates
    exact evaluates
  | update event source real subject => exact .follow (reconcile_evaluates event) fun result => .pure _

end Announcement

/-- A delivery that observes a period of the subscription. -/
structure Observation (subscriptionId : String) where
  around : Surroundings
  running : around.Running subscriptionId
  announcement : Announcement subscriptionId

namespace Observation

variable {subscriptionId : String} (observation : Observation subscriptionId)

def event : ReconcileEvent := observation.announcement.event

def period : Period := ⟨observation.running.start, observation.running.finish⟩

theorem real : observation.event.simulated = false := observation.announcement.real

theorem subject : present? observation.event.subscriptionId = some subscriptionId := observation.announcement.subject

theorem source : observation.event.source = .invoicePaid ∨ observation.event.source = .subscriptionUpdated :=
  observation.announcement.source

theorem entitled : StatusBucket.ofStatus observation.running.details.status = .entitled := observation.running.entitled

theorem sound : observation.period.Sound where
  starts := observation.running.start_zoned
  ends := observation.running.finish_zoned
  ordered := by
    have ordered := observation.running.ordered
    rw [DateTime.before_of_zoned observation.running.start_zoned observation.running.finish_zoned] at ordered
    injection ordered with ordered
    exact of_decide_eq_true ordered

end Observation

namespace MemoryStore

variable {store : MemoryStore} {event other : ReconcileEvent} {user : User} {userId customer : String}

/-- Whether an event finds a user, whose customer is a text if there is one. -/
def Finds (store : MemoryStore) (event : ReconcileEvent) (userId : String) : Prop :=
  ∃ user, store.resolve event = .ok (some user) ∧ user.id = userId ∧ ∃ customer, user.customerId = .ofText? customer

theorem Finds.adopt (keyed : store.Keyed) (found : store.resolve event = .ok (some user)) (about : user.id = userId)
    (paid : ∀ named, present? event.customerId = some named → named = customer)
    (paidToo : ∀ named, present? other.customerId = some named → named = customer) (finds : store.Finds other userId) :
    (store.adopt event user).Finds other userId := by
  cases named : present? event.customerId with
  | none =>
    have unchanged : store.adopt event user = store := by simp [MemoryStore.adopt, named]
    rwa [unchanged]
  | some payer =>
    obtain rfl := paid payer named
    have paying := event.adopted_of_customer user named
    refine ⟨event.adopted user, ?_, (event.adopted_id user).trans about, some payer, paying⟩
    cases namedToo : present? other.customerId with
    | some payerToo =>
      obtain rfl := paidToo payerToo namedToo
      have same : (store.adopt event user).customer? other = (store.adopt event user).customer? event := by
        simp only [customer?, named, namedToo]
      rw [resolve_eq, same, customer?_adopt keyed found named]
    | none =>
      obtain ⟨userToo, foundToo, aboutToo, -⟩ := finds
      have nobody : ∀ store : MemoryStore, store.customer? other = none := fun store => by
        simp [customer?, namedToo]
      rw [resolve_eq, nobody] at foundToo ⊢
      dsimp only at foundToo ⊢
      unfold userOfId at foundToo ⊢
      split at foundToo
      next filled =>
        obtain ⟨key, reference, here⟩ := text_of_atKey foundToo
        have same : key = user.id := (keyed.users.name_eq here).symm.trans (aboutToo.trans about.symm)
        rw [if_pos filled, reference, same, atKey, adopt_users keyed found, OrderedMap.get?_insert_self]
      next => cases foundToo

/-- Whether a user holds the plan under the subscription until the end of the period that was observed last, or
nothing if none was. -/
def Observed (store : MemoryStore) (userId subscriptionId : String) (plan : Plan) (last : Option Period) : Prop :=
  (store.entitlements.get? userId).map (fun held => (held.planId, held.subscriptionId, held.expiresAt)) =
    last.map fun period => (plan.id, subscriptionId, period.finish)

/-- A trigger fires exactly if the period was not observed before. -/
theorem fires_of_observed {subscriptionId : String} {plan : Plan} {last : Option Period} {period : Period}
    {grant : Grant} (observed : store.Observed userId subscriptionId plan last)
    (source : event.source = .invoicePaid ∨ event.source = .subscriptionUpdated)
    (sound : period.Sound) (preceded : ∀ before, last = some before → before.Sound ∧ before.Onward period)
    (begins : grant.start = period.start) :
    (Activation.of event (store.entitlements.get? userId) plan subscriptionId grant).fires
      ((store.entitlements.get? userId).all (·.endedBy grant.start)) = (last != some period) := by
  unfold Observed at observed
  cases last with
  | none =>
    have absent : store.entitlements.get? userId = none := by simpa using observed
    rw [absent]
    rcases source with source | source <;> simp [Activation.fires, Activation.of, source]
  | some before =>
    obtain ⟨held, present, known⟩ := Option.map_eq_some_iff.mp observed
    simp only [Prod.mk.injEq] at known
    obtain ⟨samePlan, -, expiry⟩ := known
    obtain ⟨soundBefore, onward⟩ := preceded before rfl
    have ended : held.endedBy grant.start = true ↔ before ≠ period := by
      unfold Entitlement.endedBy
      rw [expiry, begins, decide_eq_true_iff]
      have running := sound.ordered
      constructor
      · rintro ended rfl
        omega
      · exact (onward.instants soundBefore sound).resolve_left
    have same : held.endedBy grant.start = (some before != some period) := by
      rw [Bool.eq_iff_iff, ended]
      simp
    rw [present]
    rcases source with source | source <;>
      simp [Activation.fires, Activation.of, Activation.isPlanChange, source, samePlan, same]

end MemoryStore

/-- Whether a delivery is about a user and a plan: it finds the user, and names no other customer than theirs;
the subscription has a price, and its product is that of the plan. -/
structure Observation.Concerns {subscriptionId : String} (observation : Observation subscriptionId)
    (store : MemoryStore) (userId customer : String) (plan : Plan) : Prop where
  found : store.Finds observation.event userId
  pays : ∀ named, present? observation.event.customerId = some named → named = customer
  priced : (present? observation.running.subscription.priceId).isSome
  sold : (present? observation.running.subscription.productId).bind store.plans.get? = some plan

namespace MemoryStore

variable {subscriptionId userId customer : String} {store : MemoryStore} {plan : Plan} {last : Option Period}
  {observation : Observation subscriptionId}

theorem Observed.expiry (observed : store.Observed userId subscriptionId plan last) {held : Entitlement}
    (present : store.entitlements.get? userId = some held) :
    ∃ before, last = some before ∧ held.expiresAt = before.finish := by
  unfold Observed at observed
  rw [present] at observed
  obtain ⟨before, known, same⟩ := Option.map_eq_some_iff.mp observed.symm
  exact ⟨before, known, (congrArg (·.2.2) same).symm⟩

theorem Observed.saved {period : Period} (observed : store.Observed userId subscriptionId plan (some period)) :
    ∃ saved, store.entitlements.get? userId = some saved ∧ saved.expiresAt = period.finish := by
  obtain ⟨saved, present, same⟩ := Option.map_eq_some_iff.mp observed
  exact ⟨saved, present, congrArg (·.2.2) same⟩

theorem exists_grant (concerns : observation.Concerns store userId customer plan) :
    ∃ grant, grantOf observation.running.details = .ok grant ∧ grant.start = observation.period.start ∧
      grant.finish = observation.period.finish ∧ store.plans.get? grant.productId = some plan := by
  obtain ⟨productId, product, sold⟩ := Option.bind_eq_some_iff.mp concerns.sold
  obtain ⟨priceId, price⟩ := Option.isSome_iff_exists.mp concerns.priced
  exact ⟨⟨productId, priceId, observation.period.start, observation.period.finish⟩,
    grantOf_eq_ok_iff.mpr ⟨product, price, rfl, rfl⟩, rfl, rfl, sold⟩

theorem decide_of_observed {user : User} (about : user.id = userId)
    (observed : store.Observed userId subscriptionId plan last)
    (preceded : ∀ before, last = some before → before.Sound ∧ before.Onward observation.period)
    (concerns : observation.Concerns store userId customer plan) :
    ∃ grant : Grant, grant.start = observation.period.start ∧ grant.finish = observation.period.finish ∧
      store.decide observation.around observation.event user observation.running.details =
        .ok ⟨grant, plan, subscriptionId, last != some observation.period⟩ := by
  subst about
  obtain ⟨grant, granted, starts, ends, sold⟩ := exists_grant concerns
  have zoned : ∀ held, store.entitlements.get? user.id = some held → held.expiresAt.Zoned := by
    intro held present
    obtain ⟨before, known, expiry⟩ := observed.expiry present
    rw [expiry]
    exact (preceded before known).1.ends
  refine ⟨grant, starts, ends, ?_⟩
  rw [decide_of_zoned zoned granted sold observation.subject (starts ▸ observation.sound.starts)
    (ends ▸ observation.sound.ends), observation.real, Bool.false_or,
    fires_of_observed observed observation.source observation.sound preceded starts]

theorem concerns_of_users {after : MemoryStore} {user : User} {other : Observation subscriptionId}
    (keyed : store.Keyed) (found : store.resolve observation.event = .ok (some user)) (about : user.id = userId)
    (concerns : observation.Concerns store userId customer plan) (also : other.Concerns store userId customer plan)
    (users : after.users = (store.adopt observation.event user).users) (plans : after.plans = store.plans) :
    other.Concerns after userId customer plan where
  found := by
    obtain ⟨user, resolved, rest⟩ := Finds.adopt keyed found about concerns.pays also.pays also.found
    exact ⟨user, (resolve_of_users users).trans resolved, rest⟩
  pays := also.pays
  priced := also.priced
  sold := by
    rw [plans]
    exact also.sold

/-- What the observation of a period changes: the user holds the plan until its end, and usage is reset if the
period is not the one that was observed last. -/
structure Advanced (before after : MemoryStore) (userId subscriptionId : String) (plan : Plan) (last : Option Period)
    (period : Period) : Prop where
  users : after.users = before.users
  plans : after.plans = before.plans
  observed : after.Observed userId subscriptionId plan (some period)
  resets : after.resets = before.resets ++ if last = some period then [] else [period.reset userId plan]

theorem activate_of_observed {user : User} (about : user.id = userId) {customerId : Option String}
    (paying : payer observation.event user = .ok customerId)
    (observed : store.Observed userId subscriptionId plan last)
    (preceded : ∀ before, last = some before → before.Sound ∧ before.Onward observation.period)
    (concerns : observation.Concerns store userId customer plan) :
    ∃ result after,
      store.activate observation.around observation.event user observation.running.details = (.ok result, after) ∧
      result.accessUpdated = true ∧ store.Advanced after userId subscriptionId plan last observation.period := by
  obtain ⟨grant, starts, ends, decided⟩ := decide_of_observed about observed preceded concerns
  subst about
  obtain ⟨usage, listed, resets, restarted⟩ := store.restart_eq observation.around.now user
    ⟨grant, plan, subscriptionId, last != some observation.period⟩
  refine ⟨_, _, activate_of_decided decided (ends ▸ observation.sound.ends) paying, rfl, ?users, ?plans, ?observed, ?resets⟩
  case users => rw [saveEntitlement_eq, restarted]
  case plans => rw [saveEntitlement_eq, restarted]
  case observed =>
    unfold Observed
    rw [saved_entitlements]
    simp only [Decision.entitlement, OrderedMap.get?_insert_self, Option.map_some, ends]
  case resets =>
    rw [saveEntitlement_eq]
    dsimp only
    rw [restart_resets, starts, ends]
    by_cases again : last = some observation.period <;> simp [again, Period.reset]

theorem reconcile_of_observed {user : User} (keyed : store.Keyed)
    (found : store.resolve observation.event = .ok (some user)) (about : user.id = userId)
    (observed : store.Observed userId subscriptionId plan last)
    (preceded : ∀ before, last = some before → before.Sound ∧ before.Onward observation.period)
    (concerns : observation.Concerns store userId customer plan) :
    ∃ result after, store.reconcile observation.around observation.event = (.ok result, after) ∧
      result.accessUpdated = true ∧
      (store.adopt observation.event user).Advanced after userId subscriptionId plan last observation.period := by
  obtain ⟨same, resolved, -, payer, pays⟩ := concerns.found
  rw [found] at resolved
  obtain rfl : user = same := by simpa using resolved
  have also := concerns_of_users keyed found about concerns concerns rfl (store.adopt_plans observation.event user)
  have adopted : (store.adopt observation.event user).Observed userId subscriptionId plan last := by
    unfold Observed
    rw [adopt_entitlements]
    exact observed
  obtain ⟨result, after, activated, updated, advanced⟩ :=
    activate_of_observed ((observation.event.adopted_id user).trans about) (payer_of_customer pays) adopted preceded also
  refine ⟨result, after, ?_, updated, advanced⟩
  rw [reconcile_of_resolve observation.subject found,
    deliver_of_details (observation.running.details_eq observation.real observation.subject),
    settle_of_entitled observation.entitled, activated]
  rfl

end MemoryStore

/-- Where a run of deliveries stands, with the period that was observed last and the deliveries that remain. -/
structure Course {subscriptionId : String} (store : MemoryStore) (userId customer : String) (plan : Plan)
    (last : Option Period) (remaining : List (Observation subscriptionId)) : Prop where
  keyed : store.Keyed
  observed : store.Observed userId subscriptionId plan last
  sound : ∀ period, last = some period → period.Sound
  onward : (last.toList ++ remaining.map (·.period)).IsChain Period.Onward
  concern : ∀ observation ∈ remaining, observation.Concerns store userId customer plan

namespace Course

variable {subscriptionId userId customer : String} {store : MemoryStore} {plan : Plan} {last : Option Period}
  {observation : Observation subscriptionId} {rest : List (Observation subscriptionId)}

theorem preceded (course : Course store userId customer plan last (observation :: rest)) :
    ∀ before, last = some before → before.Sound ∧ before.Onward observation.period := by
  rintro before rfl
  exact ⟨course.sound before rfl, (List.isChain_cons_cons.mp course.onward).1⟩

/-- One delivery: it succeeds, it resets usage if its period was not observed before, and the run goes on. -/
theorem step (course : Course store userId customer plan last (observation :: rest)) :
    ∃ result after, store.reconcile observation.around observation.event = (.ok result, after) ∧
      result.accessUpdated = true ∧ Course after userId customer plan (some observation.period) rest ∧
      after.resets = store.resets ++
        if last = some observation.period then [] else [observation.period.reset userId plan] := by
  have concerns := course.concern observation List.mem_cons_self
  obtain ⟨user, found, about, -⟩ := concerns.found
  obtain ⟨result, after, reconciled, updated, advanced⟩ :=
    MemoryStore.reconcile_of_observed course.keyed found about course.observed course.preceded concerns
  have plans := advanced.plans.trans (store.adopt_plans observation.event user)
  refine ⟨result, after, reconciled, updated, ⟨?keyed, advanced.observed, ?sound, ?onward, ?concern⟩, ?resets⟩
  case keyed =>
    have kept := course.keyed.reconcile observation.around observation.event
    rwa [reconciled] at kept
  case sound =>
    rintro _ ⟨⟩
    exact observation.sound
  case onward =>
    cases last with
    | none => exact course.onward
    | some before => exact (List.isChain_cons_cons.mp course.onward).2
  case concern =>
    intro other member
    exact MemoryStore.concerns_of_users course.keyed found about concerns
      (course.concern other (List.mem_cons_of_mem _ member)) advanced.users plans
  case resets => rw [advanced.resets, store.adopt_eq]

end Course

namespace Service

variable {subscriptionId : String}

def observe (service : Service) (observation : Observation subscriptionId) :
    Outcome (Option ReconciliationResult) × Service :=
  observation.announcement.action.run (service.meeting observation.around)

def observed (service : Service) (observations : List (Observation subscriptionId)) : Service :=
  observations.foldl (fun service observation => (service.observe observation).2) service

end Service

namespace Course

variable {subscriptionId userId customer : String} {service : Service} {around : Surroundings} {store : MemoryStore}
  {plan : Plan} {last : Option Period} {observation : Observation subscriptionId}
  {earlier rest : List (Observation subscriptionId)}

theorem observe (placed : service.At around store) (course : Course store userId customer plan last (observation :: rest)) :
    ∃ result after, (service.observe observation).1 = .ok (some result) ∧ result.accessUpdated = true ∧
      (service.observe observation).2.At observation.around after ∧
      Course after userId customer plan (some observation.period) rest ∧
      after.resets = store.resets ++
        if last = some observation.period then [] else [observation.period.reset userId plan] := by
  obtain ⟨result, after, reconciled, updated, further, resets⟩ := course.step
  obtain ⟨outcome, there⟩ := (observation.announcement.action_evaluates observation.around store).run
    (placed.meeting observation.around)
  have reconciled : store.reconcile observation.around observation.announcement.event = (.ok result, after) := reconciled
  rw [reconciled] at outcome there
  exact ⟨result, after, outcome, updated, there, further, resets⟩

theorem run (placed : service.At around store) (course : Course store userId customer plan last (earlier ++ rest)) :
    ∃ around after latest, (service.observed earlier).At around after ∧ Course after userId customer plan latest rest ∧
      after.resets = store.resets ++ (Period.renewals last (earlier.map (·.period))).map (·.reset userId plan) := by
  induction earlier generalizing service around store last with
  | nil => exact ⟨around, store, last, placed, course, (List.append_nil _).symm⟩
  | cons observation others ih =>
    obtain ⟨result, between, -, -, there, further, resets⟩ := course.observe placed
    obtain ⟨around, after, latest, arrived, remaining, others⟩ := ih there further
    refine ⟨around, after, latest, arrived, remaining, ?_⟩
    rw [others, resets, List.append_assoc]
    by_cases again : last = some observation.period <;> simp [again, Period.renewals]

end Course

namespace Reconciliation

variable {subscriptionId userId customer : String} {service : Service} {around : Surroundings} {store : MemoryStore}
  {plan : Plan}

/-- However often the periods of a subscription are announced, each is reset for once: the resets are those of the
distinct periods that were observed. The user's expiry is the end of the period that was observed last, and it
never decreases. -/
theorem renewals_reset_once (placed : service.At around store) (keyed : store.Keyed)
    (absent : store.entitlements.get? userId = none) {observations : List (Observation subscriptionId)}
    (concern : ∀ observation ∈ observations, observation.Concerns store userId customer plan)
    (onward : (observations.map (·.period)).IsChain Period.Onward) :
    (∃ after, (service.observed observations).store = .memory after ∧
      after.resets = store.resets ++ (observations.map (·.period)).dedup.map (·.reset userId plan)) ∧
    ∀ earlier observation later, observations = earlier ++ observation :: later →
      ∃ result before after saved, (service.observed earlier).store = .memory before ∧
        ((service.observed earlier).observe observation).1 = .ok (some result) ∧ result.accessUpdated = true ∧
        ((service.observed earlier).observe observation).2.store = .memory after ∧
        after.entitlements.get? userId = some saved ∧ saved.expiresAt = observation.period.finish ∧
        ∀ held, before.entitlements.get? userId = some held → held.expiresAt.atMost saved.expiresAt = .ok true := by
  have course : Course store userId customer plan none observations := by
    refine ⟨keyed, ?_, nofun, onward, concern⟩
    unfold MemoryStore.Observed
    rw [absent]
    rfl
  constructor
  · have whole : Course store userId customer plan none (observations ++ []) := by rwa [List.append_nil]
    obtain ⟨_, after, _, there, -, resets⟩ := whole.run placed
    refine ⟨after, there.memory, ?_⟩
    rw [resets, Period.renewals_none_eq_dedup onward]
    rintro period member
    obtain ⟨observation, -, rfl⟩ := List.mem_map.mp member
    exact observation.sound
  · rintro earlier observation later rfl
    obtain ⟨_, before, latest, there, further, -⟩ := course.run placed
    obtain ⟨result, after, outcome, updated, arrived, done, -⟩ := further.observe there
    obtain ⟨saved, present, expiry⟩ := done.observed.saved
    refine ⟨result, before, after, saved, there.memory, outcome, updated, arrived.memory, present, expiry, ?_⟩
    intro held holds
    obtain ⟨period, known, ended⟩ := further.observed.expiry holds
    obtain ⟨sound, next⟩ := further.preceded period known
    rw [ended, expiry]
    exact next.atMost sound observation.sound

def weekly (week : Fin 3) : ProviderTables :=
  { ProviderTables.empty with
    subscriptions := .ofList [("sub_1", .record [("id", .text "sub_1"), ("customer", .text "cus_1"),
      ("status", .text "active"),
      ("current_period_start", Sample.stamp (7 * week.val) 32400),
      ("current_period_end", Sample.stamp (7 * week.val + 7) 32400),
      ("items", .record [("data", .list [.record [("price",
        .record [("id", .text "price_1"), ("product", .text "prod_basic")])]])])])] }

def weekRunning (week : Fin 3) : ((weekly week).around (Sample.march (7 * week.val) 36000)).Running "sub_1" where
  subscription := { Sample.normal "sub_1" "active" "prod_basic" with
    periodStart := some (Sample.march (7 * week.val) 32400)
    periodEnd := some (Sample.march (7 * week.val + 7) 32400) }
  start := Sample.march (7 * week.val) 32400
  finish := Sample.march (7 * week.val + 7) 32400
  stated := Outcome.eq_ok_of_toOption (by revert week; decide +kernel)
  entitled := by
    show StatusBucket.ofStatus "active" = .entitled
    decide
  begins := rfl
  ends := rfl
  ordered := Outcome.eq_ok_of_toOption (by revert week; decide +kernel)

def weekBill : Payload.Bill [("customer", .text "cus_1"), ("subscription", .text "sub_1")] "sub_1" "cus_1" where
  metadata := []
  reference := none
  billed := .direct (.text _)
  pays := .text _
  tagged := .null
  refers := rfl
  isSubscription := by decide
  isCustomer := by decide

def weekPaid (week : Fin 3) : Observation "sub_1" := ⟨_, weekRunning week, .invoice weekBill⟩

def weekUpdated (week : Fin 3) : Observation "sub_1" :=
  ⟨_, weekRunning week, .update (Sample.event .subscriptionUpdated "sub_1") rfl rfl rfl⟩

/-- Two weeks are announced twice each, and the one between them not at all. -/
theorem renewals_reset_once_of_weeks :
    ∃ after,
      (Sample.shop.observed [weekPaid 0, weekUpdated 0, weekUpdated 2, weekPaid 2]).store = .memory after ∧
      after.resets = [(weekPaid 0).period.reset "u1" Sample.basic, (weekPaid 2).period.reset "u1" Sample.basic] := by
  have concern : ∀ observation ∈ [weekPaid 0, weekUpdated 0, weekUpdated 2, weekPaid 2],
      observation.Concerns Sample.store "u1" "cus_1" Sample.basic := by
    intro observation member
    simp only [List.mem_cons, List.not_mem_nil, or_false] at member
    have found : ∀ source, Sample.store.Finds (Sample.event source "sub_1") "u1" := fun _ =>
      ⟨Sample.user, rfl, rfl, some "cus_1", rfl⟩
    have sold : (present? (some "prod_basic")).bind Sample.store.plans.get? = some Sample.basic := by decide +kernel
    rcases member with rfl | rfl | rfl | rfl <;>
      exact ⟨found _, by rintro _ ⟨⟩; rfl, rfl, sold⟩
  have later : (weekUpdated 0).period.finish.atMost (weekUpdated 2).period.start = .ok true :=
    Outcome.eq_ok_of_toOption (by decide +kernel)
  have onward : ([weekPaid 0, weekUpdated 0, weekUpdated 2, weekPaid 2].map (·.period)).IsChain Period.Onward := by
    simp only [List.map_cons, List.map_nil, List.isChain_cons_cons]
    exact ⟨.inl rfl, .inr later, .inl rfl, .singleton _⟩
  obtain ⟨⟨after, stored, resets⟩, -⟩ := renewals_reset_once Sample.shop_at Sample.store_keyed rfl concern onward
  exact ⟨after, stored, resets.trans (by decide +kernel)⟩

end Reconciliation

end PaidAccess
