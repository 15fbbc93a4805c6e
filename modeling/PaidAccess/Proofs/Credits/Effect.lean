import Mathlib.Logic.Relation
import PaidAccess.Credits
import PaidAccess.Proofs.Service.Evaluation
import PaidAccess.Proofs.Store.Search
/-!
What spending credits and opening the day's counters come to at a store in memory. Both change counters
only: accounts, plans, entitlements and the record of resets stay as they are, and so do the counters of
a user without an entitlement.
-/

namespace PaidAccess

namespace MemoryStore

def unexpired (store : MemoryStore) (userId : Value) (now : DateTime) : Outcome Entitlement := do
  match ← atKey none store.entitlements.get? userId with
  | none => .error (.billing .subscriptionMissing)
  | some entitlement => do
      let expired ← entitlement.expiresAt.atMost now
      if expired then .error (.billing .subscriptionMissing) else .ok entitlement

def dailyQuota? (store : MemoryStore) (planId : String) : Option Int :=
  (store.findPlan (.text planId)).bind (·.dailyCredits)

theorem findPlan_congr {store after : MemoryStore} (same : after.plans = store.plans) (planId : Value) :
    after.findPlan planId = store.findPlan planId := by
  unfold findPlan
  rw [same]

theorem dailyQuota?_congr {store after : MemoryStore} (same : after.plans = store.plans) (planId : String) :
    after.dailyQuota? planId = store.dailyQuota? planId := by
  unfold dailyQuota?
  rw [findPlan_congr same]

def quota (store : MemoryStore) (planId : String) : Outcome Int :=
  match store.dailyQuota? planId with
  | none => .error (.billing .planWithoutCredits)
  | some limit => .ok limit

def openToday (store : MemoryStore) (now : DateTime) (entitlement : Entitlement) :
    Outcome UsageCounter × MemoryStore :=
  store.proceed (dailyWindow now entitlement.expiresAt) fun window =>
    store.openCounter (.text entitlement.userId) .aiCredits (some window.1) (some window.2)

def todaysCounter (store : MemoryStore) (now : DateTime) (entitlement : Entitlement) :
    Outcome UsageCounter × MemoryStore :=
  store.proceed (store.findActiveUsage (.text entitlement.userId) .aiCredits (some now)) fun
    | some counter => (.ok counter, store)
    | none => store.openToday now entitlement

def charge (store : MemoryStore) (now : DateTime) (userId : Value) (amount : Amount) (limit : Int)
    (counter : UsageCounter) : Outcome CreditUsage × MemoryStore :=
  let spent := store.apply now (.spend userId .aiCredits (some counter.start) amount.toValue (.int limit))
  spent.2.proceed spent.1 fun
    | none => (.error (.billing .creditLimitExceeded), spent.2)
    | some updated => (Credits.report limit updated, spent.2)

def consume (store : MemoryStore) (now : DateTime) (userId : Value) (amount : Amount) :
    Outcome CreditUsage × MemoryStore :=
  if amount.atMost (.whole 0) then (.error (.billing .amountNotPositive), store)
  else
    store.proceed (store.unexpired userId now) fun entitlement =>
      store.proceed (store.quota entitlement.planId) fun limit =>
        let today := store.todaysCounter now entitlement
        today.2.proceed today.1 (today.2.charge now userId amount limit)

def openFor (store : MemoryStore) (now : DateTime) (entitlement : Entitlement) : Nat × MemoryStore :=
  match store.dailyQuota? entitlement.planId with
  | none => (0, store)
  | some _ =>
      let opened := store.openToday now entitlement
      (if opened.1.isOk then 1 else 0, opened.2)

def openAll (store : MemoryStore) (now : DateTime) : List Entitlement → Nat × MemoryStore
  | [] => (0, store)
  | entitlement :: rest =>
      let here := store.openFor now entitlement
      let others := here.2.openAll now rest
      (here.1 + others.1, others.2)

def resetDaily (store : MemoryStore) (now : DateTime) : Outcome Nat × MemoryStore :=
  store.proceed (store.activeEntitlements (some now)) fun entitlements =>
    (.ok (store.openAll now entitlements).1, (store.openAll now entitlements).2)

/-- A single change that credits make: a counter is opened for a user who holds an entitlement, or one
that is there is spent from. -/
inductive CountingStep : MemoryStore → MemoryStore → Prop where
  | opened {store : MemoryStore} (counter : UsageCounter)
      (held : (store.entitlements.get? counter.userId).isSome) : CountingStep store (store.addCounter counter)
  | spent {store : MemoryStore} {counter : UsageCounter} (updated : UsageCounter)
      (found : store.usage.get? counter.key = some counter) (same : updated.key = counter.key) :
      CountingStep store { store with usage := store.usage.insert counter.key updated }

abbrev Counting : MemoryStore → MemoryStore → Prop := Relation.ReflTransGen CountingStep

structure OnlyCounters (before after : MemoryStore) : Prop where
  users : after.users = before.users
  plans : after.plans = before.plans
  entitlements : after.entitlements = before.entitlements
  resets : after.resets = before.resets

theorem Counting.onlyCounters {before after : MemoryStore} (counting : Counting before after) :
    OnlyCounters before after := by
  induction counting with
  | refl => exact ⟨rfl, rfl, rfl, rfl⟩
  | tail _ step ih => cases step <;> exact ⟨ih.users, ih.plans, ih.entitlements, ih.resets⟩

theorem Counting.keyed {before after : MemoryStore} (counting : Counting before after) (keyed : before.Keyed) :
    after.Keyed := by
  induction counting with
  | refl => exact keyed
  | tail _ step ih =>
    cases step with
    | opened counter held => exact ih.addCounter counter
    | spent updated found same => exact ih.replaceCounter found same

theorem Counting.counted {before after : MemoryStore} (counting : Counting before after) {key : UsageKey}
    (there : (before.usage.get? key).isSome) : (after.usage.get? key).isSome := by
  induction counting with
  | refl => exact there
  | tail _ step ih =>
    cases step with
    | opened counter held => exact OrderedMap.isSome_get?_insert ih
    | spent updated found same => exact OrderedMap.isSome_get?_insert ih

def Uncounted (store : MemoryStore) (userId : String) : Prop := ∀ key ∈ store.usage.keys, key.userId ≠ userId

theorem Counting.uncounted {before after : MemoryStore} (counting : Counting before after) {userId : String}
    (absent : before.entitlements.get? userId = none) (uncounted : before.Uncounted userId) :
    after.Uncounted userId := by
  induction counting with
  | refl => exact uncounted
  | tail between step ih =>
    cases step with
    | opened counter held =>
      intro key member
      rcases OrderedMap.mem_keys_insert.mp member with rfl | old
      · rintro rfl
        have missing : before.entitlements.get? counter.userId = none := absent
        rw [(Counting.onlyCounters between).entitlements, missing] at held
        cases held
      · exact ih key old
    | spent updated found same =>
      intro key member
      rcases OrderedMap.mem_keys_insert.mp member with rfl | old
      · exact ih _ (OrderedMap.mem_keys_of_get? found)
      · exact ih key old

theorem openCounter_text (store : MemoryStore) (userId : String) (feature : FeatureKey) (start finish : DateTime) :
    store.openCounter (.text userId) feature (some start) (some finish) =
      match store.usage.get? ⟨userId, feature, start.moment⟩ with
      | some counter => (.ok counter, store)
      | none =>
          (.ok ⟨userId, feature, .whole 0, start, finish⟩,
            store.addCounter ⟨userId, feature, .whole 0, start, finish⟩) := by
  unfold openCounter
  simp only [keyOf, atKey, Option.map_some, Option.bind_some]
  cases store.usage.get? ⟨userId, feature, start.moment⟩ <;> rfl

theorem openToday_counting {store : MemoryStore} {now : DateTime} {entitlement : Entitlement}
    (held : (store.entitlements.get? entitlement.userId).isSome) :
    Counting store (store.openToday now entitlement).2 := by
  unfold openToday
  cases dailyWindow now entitlement.expiresAt with
  | error failure => exact .refl
  | ok window =>
    rw [proceed_ok, openCounter_text]
    split
    next => exact .refl
    next => exact .single (.opened _ held)

theorem todaysCounter_counting {store : MemoryStore} {now : DateTime} {entitlement : Entitlement}
    (held : (store.entitlements.get? entitlement.userId).isSome) :
    Counting store (store.todaysCounter now entitlement).2 := by
  unfold todaysCounter
  rcases store.findActiveUsage (.text entitlement.userId) .aiCredits (some now) with failure | counter | counter
  · exact .refl
  · exact openToday_counting held
  · exact .refl

theorem spend_counting {store : MemoryStore} (keyed : store.Keyed) (key : UsageKey) (amount limit : Value) :
    Counting store (store.spend key amount limit).2 := by
  unfold spend
  split
  next => exact .refl
  next counter found =>
    split
    next =>
      split
      next updated spent =>
        have same := keyed.usage.name_eq found
        subst same
        exact .single (.spent updated found (key_of_spentFrom spent))
      next => exact .refl
    next => exact .refl

theorem charge_counting {store : MemoryStore} (keyed : store.Keyed) (now : DateTime) (userId : Value)
    (amount : Amount) (limit : Int) (counter : UsageCounter) :
    Counting store (store.charge now userId amount limit counter).2 := by
  have spent : Counting store
      (store.apply now (.spend userId .aiCredits (some counter.start) amount.toValue (.int limit))).2 := by
    unfold apply
    dsimp only
    split
    next key _ => exact spend_counting keyed key _ _
    next => exact .refl
    next => exact .refl
  unfold charge
  revert spent
  generalize store.apply now _ = result
  intro spent
  rcases result with ⟨failure | updated | updated, after⟩ <;> exact spent

theorem charge_whole {store : MemoryStore} {counter : UsageCounter} {userId : String} {used : Int}
    (there : store.usage.get? counter.key = some counter) (owner : counter.userId = userId)
    (feature : counter.feature = .aiCredits) (whole : counter.used = .whole used) (time : DateTime) (amount limit : Int) :
    store.charge time (.text userId) (.whole amount) limit counter =
      if used + amount ≤ limit then
        (.ok ⟨used + amount, limit, limit - (used + amount), counter.finish⟩,
          { store with usage := store.usage.insert counter.key { counter with used := .whole (used + amount) } })
      else (.error (.billing .creditLimitExceeded), store) := by
  have named : (⟨userId, .aiCredits, counter.start.moment⟩ : UsageKey) = counter.key := by
    rw [← owner, ← feature]
    rfl
  unfold charge apply
  simp only [keyOf, atKey, Option.map_some, named]
  unfold spend
  simp only [there, Amount.toValue, Amount.ofValue?, spentFrom, Amount.sub?, whole, Amount.add?, Amount.exceeds,
    decide_eq_true_eq]
  by_cases room : used + amount ≤ limit
  · have fits : ¬ limit - amount < used := by omega
    rw [if_neg fits, if_pos room]
    rfl
  · have full : limit - amount < used := by omega
    rw [if_pos full, if_neg room]
    rfl

theorem unexpired_eq_ok_iff {store : MemoryStore} {userId : Value} {now : DateTime} {entitlement : Entitlement} :
    store.unexpired userId now = .ok entitlement ↔
      (∃ id, userId = .text id ∧ store.entitlements.get? id = some entitlement) ∧
        entitlement.expiresAt.atMost now = .ok false := by
  unfold unexpired
  constructor
  · intro found
    rcases looked : atKey none store.entitlements.get? userId with failure | _ | held
    · rw [looked] at found
      cases found
    · rw [looked] at found
      cases found
    · rw [looked] at found
      change (held.expiresAt.atMost now >>= fun expired =>
        if expired then .error (.billing .subscriptionMissing) else .ok held) = _ at found
      cases expired : held.expiresAt.atMost now with
      | error failure =>
        rw [expired] at found
        cases found
      | ok past =>
        rw [expired] at found
        cases past with
        | true => cases found
        | false =>
          cases found
          exact ⟨text_of_atKey looked, expired⟩
  · rintro ⟨⟨id, rfl, found⟩, lasting⟩
    simp [atKey, found, lasting, bind, Except.bind]

theorem consume_counting {store : MemoryStore} (keyed : store.Keyed) (now : DateTime) (userId : Value)
    (amount : Amount) : Counting store (store.consume now userId amount).2 := by
  unfold consume
  split
  next => exact .refl
  next =>
    cases found : store.unexpired userId now with
    | error failure => exact .refl
    | ok entitlement =>
      obtain ⟨⟨id, -, held⟩, -⟩ := unexpired_eq_ok_iff.mp found
      rw [proceed_ok]
      cases store.quota entitlement.planId with
      | error failure => exact .refl
      | ok limit =>
        have opened : Counting store (store.todaysCounter now entitlement).2 :=
          todaysCounter_counting (by rw [keyed.entitlements.name_eq held, held]; rfl)
        rw [proceed_ok]
        dsimp only
        cases (store.todaysCounter now entitlement).1 with
        | error failure => exact opened
        | ok counter => exact opened.trans (charge_counting (opened.keyed keyed) now userId amount limit counter)

theorem openFor_counting {store : MemoryStore} {now : DateTime} {entitlement : Entitlement}
    (held : (store.entitlements.get? entitlement.userId).isSome) :
    Counting store (store.openFor now entitlement).2 := by
  unfold openFor
  split
  next => exact .refl
  next => exact openToday_counting held

theorem openFor_plans (store : MemoryStore) (now : DateTime) (entitlement : Entitlement) :
    (store.openFor now entitlement).2.plans = store.plans := by
  unfold openFor openToday
  split
  next => rfl
  next =>
    cases dailyWindow now entitlement.expiresAt with
    | error failure => rfl
    | ok window =>
      rw [proceed_ok, openCounter_text]
      split <;> rfl

theorem openAll_counting {store : MemoryStore} {now : DateTime} {entitlements : List Entitlement}
    (held : ∀ entitlement ∈ entitlements, (store.entitlements.get? entitlement.userId).isSome) :
    Counting store (store.openAll now entitlements).2 := by
  induction entitlements generalizing store with
  | nil => exact .refl
  | cons entitlement rest ih =>
    have here : Counting store (store.openFor now entitlement).2 :=
      openFor_counting (held entitlement List.mem_cons_self)
    refine here.trans (ih fun other member => ?_)
    rw [here.onlyCounters.entitlements]
    exact held other (List.mem_cons_of_mem _ member)

theorem resetDaily_counting {store : MemoryStore} (keyed : store.Keyed) (now : DateTime) :
    Counting store (store.resetDaily now).2 := by
  unfold resetDaily
  cases active : store.activeEntitlements (some now) with
  | error failure => exact .refl
  | ok entitlements =>
    refine openAll_counting fun entitlement member => ?_
    have listed : entitlement ∈ store.entitlements.values := Outcome.mem_of_filter active member
    rw [keyed.entitlements.mem_values_iff.mp listed]
    rfl

end MemoryStore

namespace Credits

variable {around : Surroundings} {store : MemoryStore}

theorem unexpired_evaluates (userId : Value) :
    Evaluates around store (unexpired userId around.now) (store.unexpired userId around.now, store) := by
  refine .bind_outcome (.perform _) fun found => ?_
  cases found with
  | none => exact .refuse _
  | some entitlement =>
    refine .bind_outcome (.lift _) fun expired => ?_
    cases expired with
    | true => exact .bind_error (.refuse _)
    | false => exact .bind (.pure _) (.pure _)

theorem quota_evaluates (planId : String) :
    Evaluates around store (quota planId) (store.quota planId, store) := by
  apply Evaluates.bind (.perform _)
  unfold MemoryStore.quota MemoryStore.dailyQuota?
  cases (store.findPlan (.text planId)).bind (·.dailyCredits) with
  | none => exact .refuse _
  | some limit => exact .pure _

theorem todaysCounter_evaluates (entitlement : Entitlement) :
    Evaluates around store (todaysCounter entitlement around.now) (store.todaysCounter around.now entitlement) := by
  refine .proceed (.perform _) fun found => ?_
  cases found with
  | some counter => exact .pure _
  | none => exact .proceed (.lift _) fun window => .perform _

theorem consume_evaluates (userId : Value) (amount : Amount) :
    Evaluates around store (consume userId amount) (store.consume around.now userId amount) := by
  unfold consume MemoryStore.consume
  by_cases nothing : amount.atMost (.whole 0) = true
  · simp only [nothing, ↓reduceIte]
    exact .bind_error (.refuse _)
  · simp only [nothing, Bool.false_eq_true, ↓reduceIte]
    refine .bind .now (.proceed (unexpired_evaluates userId) fun entitlement => ?_)
    refine .proceed (quota_evaluates _) fun limit => ?_
    refine .follow (todaysCounter_evaluates entitlement) fun counter => .follow (.perform _) fun spent => ?_
    cases spent with
    | none => exact .bind (.log _) (.refuse _)
    | some updated => exact .bind (.log _) (.lift _)

/-- The plans in a cache are those that the store would find. -/
def Faithful (store : MemoryStore) (found : OrderedMap String (Option Plan)) : Prop :=
  ∀ planId plan, found.get? planId = some plan → plan = store.findPlan (.text planId)

theorem Faithful.insert {found : OrderedMap String (Option Plan)} (faithful : Faithful store found) (planId : String) :
    Faithful store (found.insert planId (store.findPlan (.text planId))) := by
  intro other plan asked
  rw [OrderedMap.get?_insert] at asked
  split at asked
  next same =>
    cases asked
    rw [same]
  next => exact faithful other plan asked

theorem Faithful.congr {after : MemoryStore} {found : OrderedMap String (Option Plan)} (faithful : Faithful store found)
    (same : after.plans = store.plans) : Faithful after found := by
  intro planId plan cached
  rw [MemoryStore.findPlan_congr same]
  exact faithful planId plan cached

variable (around) in
theorem cachedPlan_evaluates (planId : String) {found : OrderedMap String (Option Plan)}
    (faithful : Faithful store found) :
    ∃ after, Faithful store after ∧
      Evaluates around store (cachedPlan planId found) (.ok (store.findPlan (.text planId), after), store) := by
  unfold cachedPlan
  cases cached : found.get? planId with
  | some plan =>
    refine ⟨found, faithful, ?_⟩
    rw [← faithful planId plan cached]
    exact .pure _
  | none => exact ⟨found.insert planId _, faithful.insert planId, .bind (.perform _) (.pure _)⟩

theorem openToday_evaluates (entitlement : Entitlement) :
    Evaluates around store (openToday around.now entitlement)
      (.ok (if (store.openToday around.now entitlement).1.isOk then 1 else 0),
        (store.openToday around.now entitlement).2) := by
  unfold openToday MemoryStore.openToday
  cases dailyWindow around.now entitlement.expiresAt with
  | error failure => exact .recover_error (.bind_error (.lift _)) (.bind (.log _) (.pure _))
  | ok window =>
    have opened : Evaluates around store
        (Action.openCounter entitlement.userId .aiCredits window.1 window.2)
        (store.openCounter (.text entitlement.userId) .aiCredits (some window.1) (some window.2)) := .perform _
    rw [MemoryStore.proceed_ok]
    generalize store.openCounter _ _ _ _ = result at opened
    obtain ⟨outcome, after⟩ := result
    cases outcome with
    | ok counter => exact .recover (.bind (.lift _) (.bind opened (.pure _)))
    | error failure =>
      exact .recover_error (.bind (.lift _) (.bind_error opened)) (.bind (.log _) (.pure _))

theorem openAll_evaluates (entitlements : List Entitlement) {found : OrderedMap String (Option Plan)}
    (faithful : Faithful store found) :
    Evaluates around store (openAll around.now found entitlements)
      (.ok (store.openAll around.now entitlements).1, (store.openAll around.now entitlements).2) := by
  induction entitlements generalizing store found with
  | nil => exact .pure _
  | cons entitlement rest ih =>
    obtain ⟨cache, kept, looked⟩ := cachedPlan_evaluates around entitlement.planId faithful
    apply Evaluates.bind looked
    have still : Faithful (store.openFor around.now entitlement).2 cache :=
      kept.congr (MemoryStore.openFor_plans store around.now entitlement)
    have others : ∀ here : Nat, Evaluates around (store.openFor around.now entitlement).2
        (do
          let others ← openAll around.now cache rest
          return here + others)
        (.ok (here + ((store.openFor around.now entitlement).2.openAll around.now rest).1),
          ((store.openFor around.now entitlement).2.openAll around.now rest).2) :=
      fun _ => .bind (ih still) (.pure _)
    dsimp only [MemoryStore.openAll]
    cases planned : (store.findPlan (.text entitlement.planId)).bind (·.dailyCredits) with
    | none =>
      have here : store.openFor around.now entitlement = (0, store) := by
        simp [MemoryStore.openFor, MemoryStore.dailyQuota?, planned]
      rw [here] at others ⊢
      exact .bind (.pure _) (others 0)
    | some limit =>
      have here : store.openFor around.now entitlement =
          (if (store.openToday around.now entitlement).1.isOk then 1 else 0,
            (store.openToday around.now entitlement).2) := by
        simp [MemoryStore.openFor, MemoryStore.dailyQuota?, planned]
      rw [here] at others ⊢
      exact .bind (openToday_evaluates entitlement) (others _)

theorem resetDaily_evaluates : Evaluates around store resetDaily (store.resetDaily around.now) := by
  refine .bind .now (.proceed (.perform _) fun entitlements => ?_)
  have empty : Faithful store ∅ := fun planId plan absent => by cases absent
  have opened : Evaluates around store (openAll around.now ∅ entitlements) _ := openAll_evaluates entitlements empty
  exact .bind opened (.bind (.log _) (.pure _))

end Credits

inductive CreditCall where
  | spend (userId : Value) (amount : Amount)
  | openDay

def CreditCall.action : CreditCall → Action Unit
  | .spend userId amount => do
      let _ ← Credits.consume userId amount
      return ()
  | .openDay => do
      let _ ← Credits.resetDaily
      return ()

namespace MemoryStore

def credit (store : MemoryStore) (now : DateTime) : CreditCall → Outcome Unit × MemoryStore
  | .spend userId amount =>
      let spent := store.consume now userId amount
      spent.2.proceed spent.1 fun _ => (.ok (), spent.2)
  | .openDay =>
      let opened := store.resetDaily now
      opened.2.proceed opened.1 fun _ => (.ok (), opened.2)

def credited (store : MemoryStore) : List (DateTime × CreditCall) → MemoryStore
  | [] => store
  | (time, call) :: rest => (store.credit time call).2.credited rest

theorem credit_spend (store : MemoryStore) (now : DateTime) (userId : Value) (amount : Amount) :
    (store.credit now (.spend userId amount)).1.isOk = (store.consume now userId amount).1.isOk ∧
      (store.credit now (.spend userId amount)).2 = (store.consume now userId amount).2 := by
  unfold credit
  cases outcome : (store.consume now userId amount).1 <;> simp [outcome, Except.isOk, Except.toBool]

theorem credit_openDay (store : MemoryStore) (now : DateTime) :
    (store.credit now .openDay).2 = (store.resetDaily now).2 := by
  unfold credit
  cases outcome : (store.resetDaily now).1 <;> simp [outcome]

theorem credit_counting {store : MemoryStore} (keyed : store.Keyed) (now : DateTime) (call : CreditCall) :
    Counting store (store.credit now call).2 := by
  cases call with
  | spend userId amount =>
    rw [(credit_spend store now userId amount).2]
    exact consume_counting keyed now userId amount
  | openDay =>
    rw [credit_openDay]
    exact resetDaily_counting keyed now

theorem credited_counting {store : MemoryStore} (keyed : store.Keyed) (calls : List (DateTime × CreditCall)) :
    Counting store (store.credited calls) := by
  induction calls generalizing store with
  | nil => exact .refl
  | cons call rest ih =>
    have first := credit_counting keyed call.1 call.2
    exact first.trans (ih (first.keyed keyed))

end MemoryStore

/-- The service after requests at certain times, each of which may fail. -/
def Service.credited (service : Service) : List (DateTime × CreditCall) → Service
  | [] => service
  | (time, call) :: rest => (call.action.run { service with now := time }).2.credited rest

theorem CreditCall.evaluates {around : Surroundings} {store : MemoryStore} (call : CreditCall) :
    Evaluates around store call.action (store.credit around.now call) := by
  cases call with
  | spend userId amount => exact .follow (Credits.consume_evaluates userId amount) fun _ => .pure _
  | openDay => exact .follow Credits.resetDaily_evaluates fun _ => .pure _

theorem Service.At.credited {service : Service} {around : Surroundings} {store : MemoryStore}
    (placed : service.At around store) (calls : List (DateTime × CreditCall)) :
    ∃ time, (service.credited calls).At (around.at time) (store.credited calls) := by
  induction calls generalizing service around store with
  | nil => exact ⟨around.now, placed⟩
  | cons call rest ih =>
    obtain ⟨time, call⟩ := call
    have there := ((CreditCall.evaluates call).run (placed.wait time)).2
    obtain ⟨last, arrived⟩ := ih there
    exact ⟨last, arrived⟩

end PaidAccess
