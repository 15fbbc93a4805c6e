import Mathlib.Algebra.Ring.Int.Defs
import PaidAccess.Proofs.Credits.Effect
import PaidAccess.Proofs.Reconciliation.Activation
import PaidAccess.Proofs.Service.Sample
/-!
Counters against a ledger. The ledger is kept from outside: it only knows which calls were made and which of them
were accepted, and lists for every counter the spends that were accepted since it was made or reset. Every counter
holds exactly what its ledger entry adds up to.
-/

namespace PaidAccess

inductive CounterCall where
  /-- Sets the counters of a plan to zero for a cycle. -/
  | reset (userId : String) (plan : Plan) (start finish : DateTime)
  /-- Makes a counter at zero unless there is one. -/
  | opening (userId : String) (feature : FeatureKey) (start finish : DateTime)
  /-- Adds to a counter unless that would exceed the limit. -/
  | spend (userId : String) (feature : FeatureKey) (start : DateTime) (amount limit : Int)
  /-- Removes all counters of a user, and the entitlement. -/
  | revoke (userId : String)

def StoreOp.accepts : (op : StoreOp) → Outcome op.Result → Bool
  | .spend .., .ok updated => updated.isSome
  | _, .ok _ => true
  | _, .error _ => false

namespace CounterCall

def op : CounterCall → StoreOp
  | .reset userId plan start finish => .resetUsage (.text userId) plan (some start) (some finish)
  | .opening userId feature start finish => .openCounter (.text userId) feature (some start) (some finish)
  | .spend userId feature start amount limit => .spend (.text userId) feature (some start) (.int amount) (.int limit)
  | .revoke userId => .revoke (.text userId)

def Positive : CounterCall → Prop
  | .spend _ _ _ amount _ => 1 ≤ amount
  | _ => True

end CounterCall

def MemoryStore.history (store : MemoryStore) :
    List (DateTime × CounterCall) → List (CounterCall × Bool) × MemoryStore
  | [] => ([], store)
  | (now, call) :: rest =>
      let done := store.apply now call.op
      let later := history done.2 rest
      ((call, call.op.accepts done.1) :: later.1, later.2)

structure Spend where
  amount : Int
  limit : Int
  deriving DecidableEq

def Spend.total (spends : List Spend) : Int := (spends.map Spend.amount).sum

def Plan.carries (plan : Plan) : FeatureKey → Bool
  | .aiCredits => plan.dailyCredits.isSome
  | .storageMb => plan.storageMegabytes.isSome

/-- The spends on every counter that were accepted since it was made or reset; none where there is no counter. -/
abbrev Ledger := UsageKey → Option (List Spend)

namespace Ledger

def empty : Ledger := fun _ => none

/-- The ledger after a call that was accepted or refused. -/
def record (ledger : Ledger) : CounterCall × Bool → Ledger
  | (_, false) => ledger
  | (.reset userId plan start _, true) => fun key =>
      if key.userId = userId ∧ plan.carries key.feature = true ∧ key.start = start.moment then some [] else ledger key
  | (.opening userId feature start _, true) => fun key =>
      if key = ⟨userId, feature, start.moment⟩ then some ((ledger key).getD []) else ledger key
  | (.spend userId feature start amount limit, true) => fun key =>
      if key = ⟨userId, feature, start.moment⟩ then (ledger key).map (· ++ [⟨amount, limit⟩]) else ledger key
  | (.revoke userId, true) => fun key => if key.userId = userId then none else ledger key

def ofHistory (history : List (CounterCall × Bool)) : Ledger := history.foldl record empty

end Ledger

/-- Whether every counter holds what its entry in a ledger adds up to, and no more than a limit that all spends in
the entry respected. -/
structure Balanced (store : MemoryStore) (ledger : Ledger) : Prop where
  used : ∀ key, (store.usage.get? key).map UsageCounter.used =
    (ledger key).map fun spends => .whole (Spend.total spends)
  within : ∀ key spends limit, ledger key = some spends → 0 ≤ limit → (∀ spend ∈ spends, spend.limit = limit) →
    0 ≤ Spend.total spends ∧ Spend.total spends ≤ limit

namespace MemoryStore

variable {store : MemoryStore} {ledger : Ledger} {now : DateTime}

theorem spend_of_whole {key : UsageKey} {counter : UsageCounter} {used : Int}
    (found : store.usage.get? key = some counter) (whole : counter.used = .whole used) (amount limit : Int) :
    store.spend key (.int amount) (.int limit) =
      if used + amount ≤ limit then
        (.ok (some { counter with used := .whole (used + amount) }),
          { store with usage := store.usage.insert key { counter with used := .whole (used + amount) } })
      else (.ok none, store) := by
  unfold spend
  simp only [found, Amount.ofValue?, spentFrom, Amount.sub?, whole, Amount.add?, Amount.exceeds, decide_eq_true_eq]
  by_cases room : used + amount ≤ limit
  · have fits : ¬ limit - amount < used := by omega
    rw [if_neg fits, if_pos room]
  · have full : limit - amount < used := by omega
    rw [if_pos full, if_neg room]

theorem apply_spend (store : MemoryStore) (now : DateTime) (userId : String) (feature : FeatureKey) (start : DateTime)
    (amount limit : Int) :
    store.apply now (.spend (.text userId) feature (some start) (.int amount) (.int limit)) =
      store.spend ⟨userId, feature, start.moment⟩ (.int amount) (.int limit) :=
  rfl

end MemoryStore

theorem Plan.used_enter_zeroCounters (plan : Plan) (userId : String) (start finish close : DateTime)
    (usage : OrderedMap UsageKey UsageCounter) (key : UsageKey) :
    ((usage.enter UsageCounter.key (plan.zeroCounters userId start finish close)).get? key).map UsageCounter.used =
      if key.userId = userId ∧ plan.carries key.feature = true ∧ key.start = start.moment then some (.whole 0)
      else (usage.get? key).map UsageCounter.used := by
  have distinct := plan.zeroCounters_distinct userId start finish close
  split
  next carried =>
    obtain ⟨rfl, carries, begins⟩ := carried
    obtain ⟨userId, feature, moment⟩ := key
    obtain rfl : moment = start.moment := begins
    cases feature with
    | aiCredits =>
      have there := OrderedMap.get?_enter_of_mem usage distinct (Plan.mem_zeroCounters.mpr (.inl ⟨carries, rfl⟩))
      exact congrArg (Option.map UsageCounter.used) there
    | storageMb =>
      have there := OrderedMap.get?_enter_of_mem usage distinct (Plan.mem_zeroCounters.mpr (.inr ⟨carries, rfl⟩))
      exact congrArg (Option.map UsageCounter.used) there
  next other =>
    rw [OrderedMap.get?_enter_of_forall_ne]
    rintro counter member rfl
    rcases Plan.mem_zeroCounters.mp member with ⟨carries, rfl⟩ | ⟨carries, rfl⟩
    · exact other ⟨rfl, carries, rfl⟩
    · exact other ⟨rfl, carries, rfl⟩

namespace Balanced

variable {store : MemoryStore} {ledger : Ledger}

theorem empty : Balanced .empty .empty where
  used _ := rfl
  within _ _ _ entry := nomatch entry

theorem of_usage (balanced : Balanced store ledger) {after : MemoryStore} (same : after.usage = store.usage) :
    Balanced after ledger where
  used key := by rw [same, balanced.used key]
  within := balanced.within

theorem entry (balanced : Balanced store ledger) {key : UsageKey} {counter : UsageCounter}
    (found : store.usage.get? key = some counter) :
    ∃ spends, ledger key = some spends ∧ counter.used = .whole (Spend.total spends) := by
  have used := balanced.used key
  rw [found] at used
  obtain ⟨spends, listed, total⟩ := Option.map_eq_some_iff.mp used.symm
  exact ⟨spends, listed, total.symm⟩

theorem unlisted (balanced : Balanced store ledger) {key : UsageKey} (missing : store.usage.get? key = none) :
    ledger key = none := by
  have used := balanced.used key
  rw [missing] at used
  exact Option.map_eq_none_iff.mp used.symm

theorem reset (balanced : Balanced store ledger) (now : DateTime) (userId : String) (plan : Plan)
    (start finish : DateTime) :
    Balanced (store.apply now (CounterCall.reset userId plan start finish).op).2
      (ledger.record (.reset userId plan start finish,
        StoreOp.accepts _ (store.apply now (CounterCall.reset userId plan start finish).op).1)) := by
  change Balanced (store.resetUsage now (.text userId) plan (some start) (some finish)).2
    (ledger.record (_, StoreOp.accepts (.resetUsage (.text userId) plan (some start) (some finish))
      (store.resetUsage now (.text userId) plan (some start) (some finish)).1))
  cases fresh : plan.freshCounters (.text userId) (some start) (some finish) now with
  | error failure =>
    unfold MemoryStore.resetUsage
    rw [fresh]
    exact balanced.of_usage rfl
  | ok counters =>
    obtain ⟨listed, resets, entered⟩ := store.resetUsage_of_fresh fresh
    obtain ⟨close, rfl⟩ := Plan.zeroCounters_of_freshCounters fresh
    rw [entered]
    constructor
    · intro key
      refine (plan.used_enter_zeroCounters userId start finish close store.usage key).trans ?_
      simp only [StoreOp.accepts, Ledger.record]
      split
      next => rfl
      next => exact balanced.used key
    · intro key spends limit entry nonnegative same
      simp only [StoreOp.accepts, Ledger.record] at entry
      split at entry
      next =>
        cases entry
        exact ⟨Int.le_refl 0, nonnegative⟩
      next => exact balanced.within key spends limit entry nonnegative same

theorem opening (balanced : Balanced store ledger) (now : DateTime) (userId : String) (feature : FeatureKey)
    (start finish : DateTime) :
    Balanced (store.apply now (CounterCall.opening userId feature start finish).op).2
      (ledger.record (.opening userId feature start finish,
        StoreOp.accepts _ (store.apply now (CounterCall.opening userId feature start finish).op).1)) := by
  change Balanced (store.openCounter (.text userId) feature (some start) (some finish)).2
    (ledger.record (_, StoreOp.accepts (.openCounter (.text userId) feature (some start) (some finish))
      (store.openCounter (.text userId) feature (some start) (some finish)).1))
  rw [MemoryStore.openCounter_text]
  cases found : store.usage.get? ⟨userId, feature, start.moment⟩ with
  | some counter =>
    -- a counter that is there is left alone, and so is its entry
    obtain ⟨spends, entry, -⟩ := balanced.entry found
    have same : ledger.record (.opening userId feature start finish, true) = ledger := by
      funext key
      simp only [Ledger.record]
      split
      next here => rw [here, entry, Option.getD_some]
      next => rfl
    exact same.symm ▸ balanced
  | none =>
    have missing := balanced.unlisted found
    have inserted := store.usage.get?_insert ⟨userId, feature, start.moment⟩
    constructor
    · intro key
      refine (congrArg (Option.map UsageCounter.used) (inserted key ⟨userId, feature, .whole 0, start, finish⟩)).trans ?_
      simp only [StoreOp.accepts, Ledger.record]
      by_cases here : key = ⟨userId, feature, start.moment⟩
      · rw [if_pos here, if_pos here, here, missing]
        rfl
      · rw [if_neg here, if_neg here, balanced.used key]
    · intro key spends limit entry nonnegative same
      simp only [StoreOp.accepts, Ledger.record] at entry
      split at entry
      next here =>
        rw [here, missing] at entry
        cases entry
        exact ⟨Int.le_refl 0, nonnegative⟩
      next => exact balanced.within key spends limit entry nonnegative same

theorem spend (balanced : Balanced store ledger) (now : DateTime) (userId : String) (feature : FeatureKey)
    (start : DateTime) {amount : Int} (positive : 1 ≤ amount) (limit : Int) :
    Balanced (store.apply now (CounterCall.spend userId feature start amount limit).op).2
      (ledger.record (.spend userId feature start amount limit,
        StoreOp.accepts _ (store.apply now (CounterCall.spend userId feature start amount limit).op).1)) := by
  change Balanced (store.spend ⟨userId, feature, start.moment⟩ (.int amount) (.int limit)).2
    (ledger.record (_, StoreOp.accepts (.spend (.text userId) feature (some start) (.int amount) (.int limit))
      (store.spend ⟨userId, feature, start.moment⟩ (.int amount) (.int limit)).1))
  cases found : store.usage.get? ⟨userId, feature, start.moment⟩ with
  | none =>
    unfold MemoryStore.spend
    rw [found]
    exact balanced
  | some counter =>
    obtain ⟨spends, listed, whole⟩ := balanced.entry found
    rw [MemoryStore.spend_of_whole found whole]
    by_cases room : Spend.total spends + amount ≤ limit
    · rw [if_pos room]
      have total : Spend.total (spends ++ [⟨amount, limit⟩]) = Spend.total spends + amount := by
        simp [Spend.total]
      constructor
      · intro key
        refine (congrArg (Option.map UsageCounter.used) (OrderedMap.get?_insert store.usage _ key _)).trans ?_
        simp only [StoreOp.accepts, Option.isSome_some, Ledger.record]
        by_cases here : key = ⟨userId, feature, start.moment⟩
        · rw [if_pos here, if_pos here, here, listed, Option.map_some, Option.map_some, Option.map_some, total]
        · rw [if_neg here, if_neg here, balanced.used key]
      · intro key others bound entry nonnegative same
        simp only [StoreOp.accepts, Option.isSome_some, Ledger.record] at entry
        split at entry
        next here =>
          rw [here, listed] at entry
          cases entry
          have before := balanced.within _ spends bound listed nonnegative fun spend member =>
            same spend (List.mem_append_left _ member)
          have respected : limit = bound := same ⟨amount, limit⟩ (List.mem_append_right _ List.mem_cons_self)
          rw [total]
          omega
        next => exact balanced.within key others bound entry nonnegative same
    · rw [if_neg room]
      exact balanced

theorem revoke (balanced : Balanced store ledger) (now : DateTime) (userId : String) :
    Balanced (store.apply now (CounterCall.revoke userId).op).2
      (ledger.record (.revoke userId, StoreOp.accepts _ (store.apply now (CounterCall.revoke userId).op).1)) := by
  change Balanced (store.revoke userId) (ledger.record (.revoke userId, true))
  constructor
  · intro key
    refine (congrArg (Option.map UsageCounter.used) (store.usage.get?_eraseWhere (·.userId == userId) key)).trans ?_
    simp only [Ledger.record, beq_iff_eq]
    split
    next => rfl
    next => exact balanced.used key
  · intro key spends limit entry nonnegative same
    simp only [Ledger.record] at entry
    split at entry
    next => cases entry
    next => exact balanced.within key spends limit entry nonnegative same

theorem step (balanced : Balanced store ledger) (now : DateTime) {call : CounterCall} (positive : call.Positive) :
    Balanced (store.apply now call.op).2
      (ledger.record (call, call.op.accepts (store.apply now call.op).1)) := by
  cases call with
  | reset userId plan start finish => exact balanced.reset now userId plan start finish
  | opening userId feature start finish => exact balanced.opening now userId feature start finish
  | spend userId feature start amount limit => exact balanced.spend now userId feature start positive limit
  | revoke userId => exact balanced.revoke now userId

theorem run (balanced : Balanced store ledger) {calls : List (DateTime × CounterCall)}
    (positive : ∀ call ∈ calls, call.2.Positive) :
    Balanced (store.history calls).2 ((store.history calls).1.foldl Ledger.record ledger) := by
  induction calls generalizing store ledger with
  | nil => exact balanced
  | cons call rest ih =>
    exact ih (balanced.step call.1 (positive call List.mem_cons_self)) fun later member =>
      positive later (List.mem_cons_of_mem _ member)

/-- What comes of a spend at a store that is in balance: it is accepted exactly if the counter is there and the sum
respects the limit, and a refused one changes nothing. -/
theorem spend_outcome (balanced : Balanced store ledger) (now : DateTime) (userId : String) (feature : FeatureKey)
    (start : DateTime) (amount limit : Int) :
    ∃ updated,
      (store.apply now (.spend (.text userId) feature (some start) (.int amount) (.int limit))).1 = .ok updated ∧
      (updated.isSome = true ↔ ∃ counter used,
        store.usage.get? ⟨userId, feature, start.moment⟩ = some counter ∧ counter.used = .whole used ∧
          used + amount ≤ limit) ∧
      (updated = none →
        (store.apply now (.spend (.text userId) feature (some start) (.int amount) (.int limit))).2 = store) := by
  rw [MemoryStore.apply_spend]
  cases found : store.usage.get? ⟨userId, feature, start.moment⟩ with
  | none =>
    unfold MemoryStore.spend
    rw [found]
    exact ⟨none, rfl, by simp, fun _ => rfl⟩
  | some counter =>
    obtain ⟨spends, -, whole⟩ := balanced.entry found
    rw [MemoryStore.spend_of_whole found whole]
    by_cases room : Spend.total spends + amount ≤ limit
    · rw [if_pos room]
      exact ⟨_, rfl, ⟨fun _ => ⟨counter, _, rfl, whole, room⟩, fun _ => rfl⟩, nofun⟩
    · rw [if_neg room]
      refine ⟨none, rfl, ⟨nofun, ?_⟩, fun _ => rfl⟩
      rintro ⟨other, used, same, amounts, fits⟩
      cases same
      rw [whole] at amounts
      cases amounts
      exact absurd fits room

end Balanced

/-- Nothing that was spent is lost or counted twice. After any calls from an empty store, a counter that is there holds
the sum of the spends on it that were accepted since it was made or reset, and if they all respected the same limit,
that sum respects it as well. The next spend on any counter is accepted exactly if the counter is there and the sum
respects the limit of the spend, and changes nothing if it is refused. -/
theorem MemoryStore.credits_conserved (calls : List (DateTime × CounterCall))
    (positive : ∀ call ∈ calls, call.2.Positive) :
    (∀ key counter, (empty.history calls).2.usage.get? key = some counter →
      ∃ spends, Ledger.ofHistory (empty.history calls).1 key = some spends ∧
        counter.used = .whole (Spend.total spends) ∧
        ∀ limit, 0 ≤ limit → (∀ spend ∈ spends, spend.limit = limit) →
          0 ≤ Spend.total spends ∧ Spend.total spends ≤ limit) ∧
    ∀ (now : DateTime) (userId : String) (feature : FeatureKey) (start : DateTime) (amount limit : Int),
      ∃ updated,
        ((empty.history calls).2.apply now
          (.spend (.text userId) feature (some start) (.int amount) (.int limit))).1 = .ok updated ∧
        (updated.isSome = true ↔ ∃ counter used,
          (empty.history calls).2.usage.get? ⟨userId, feature, start.moment⟩ = some counter ∧
            counter.used = .whole used ∧ used + amount ≤ limit) ∧
        (updated = none →
          ((empty.history calls).2.apply now
            (.spend (.text userId) feature (some start) (.int amount) (.int limit))).2 = (empty.history calls).2) := by
  have balanced : Balanced (empty.history calls).2 (Ledger.ofHistory (empty.history calls).1) :=
    Balanced.empty.run positive
  refine ⟨fun key counter found => ?_, balanced.spend_outcome⟩
  obtain ⟨spends, entry, whole⟩ := balanced.entry found
  exact ⟨spends, entry, whole, fun limit => balanced.within key spends limit entry⟩

def Sample.spending : List (DateTime × CounterCall) :=
  [(march 0 36000, .reset "u1" basic (march 0 32400) (march 30 32400)),
    (march 0 36001, .spend "u1" .aiCredits (march 0 32400) 30 50),
    (march 0 36002, .spend "u1" .aiCredits (march 0 32400) 21 50),
    (march 0 36003, .opening "u1" .aiCredits (march 0 32400) (march 30 32400)),
    (march 0 36004, .spend "u1" .aiCredits (march 0 32400) 20 50)]

theorem MemoryStore.credits_conserved_spending :
    ∃ counter, (empty.history Sample.spending).2.usage.get? ⟨"u1", .aiCredits, (Sample.march 0 32400).moment⟩ =
        some counter ∧
      Ledger.ofHistory (empty.history Sample.spending).1 ⟨"u1", .aiCredits, (Sample.march 0 32400).moment⟩ =
        some [⟨30, 50⟩, ⟨20, 50⟩] ∧
      counter.used = .whole 50 := by
  have positive : ∀ call ∈ Sample.spending, call.2.Positive := by
    simp [Sample.spending, CounterCall.Positive]
  have listed : Ledger.ofHistory (empty.history Sample.spending).1 ⟨"u1", .aiCredits, (Sample.march 0 32400).moment⟩ =
      some [⟨30, 50⟩, ⟨20, 50⟩] := by decide +kernel
  have there : ((empty.history Sample.spending).2.usage.get?
      ⟨"u1", .aiCredits, (Sample.march 0 32400).moment⟩).isSome = true := by decide +kernel
  obtain ⟨counter, found⟩ := Option.isSome_iff_exists.mp there
  obtain ⟨spends, entry, whole, -⟩ := (credits_conserved Sample.spending positive).1 _ counter found
  rw [listed] at entry
  cases entry
  exact ⟨counter, found, listed, whole⟩

end PaidAccess
