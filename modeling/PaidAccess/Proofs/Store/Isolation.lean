import PaidAccess.Proofs.Store.Search
import PaidAccess.Proofs.Validation.Checked
/-!
Whose data an operation of the store may change. An operation names one user at most, by the id or by the subscription
of an entitlement. What belongs to anybody else stays as it was, and so do the plans.
-/

namespace PaidAccess

def Value.named? : Value → Option String
  | .text name => some name
  | _ => none

theorem Lenient.text_eq_valid_iff {value : Value} {content : String} : text value = .valid content ↔ value = .text content := by
  cases value <;> simp [text, Checked.fault]

namespace UsageCounter

theorem given_eq_valid_iff {time : Option DateTime} {found : DateTime} : given time = .valid found ↔ time = some found := by
  cases time <;> simp [given, Checked.fault]

theorem opened_eq_valid_iff {userId : Value} {feature : FeatureKey} {start finish : Option DateTime} {counter : UsageCounter} :
    opened userId feature start finish = .valid counter ↔
      userId = .text counter.userId ∧ start = some counter.start ∧ finish = some counter.finish ∧
        counter.feature = feature ∧ counter.used = .whole 0 := by
  unfold opened
  simp only [Checked.seq_eq_valid_iff, Checked.map_eq_valid_iff, Checked.within_eq_valid_iff, Lenient.text_eq_valid_iff,
    given_eq_valid_iff]
  constructor
  · rintro ⟨_, _, ⟨_, _, ⟨_, rfl, rfl⟩, rfl, rfl⟩, rfl, rfl⟩
    exact ⟨rfl, rfl, rfl, rfl, rfl⟩
  · rintro ⟨rfl, rfl, rfl, rfl, zero⟩
    exact ⟨_, _, ⟨_, _, ⟨_, rfl, rfl⟩, rfl, rfl⟩, rfl, by rw [← zero]⟩

theorem named_of_opened {userId : Value} {feature : FeatureKey} {start finish : Option DateTime} {counter : UsageCounter}
    (made : (opened userId feature start finish).outcome = .ok counter) : userId.named? = some counter.userId := by
  obtain ⟨named, -⟩ := opened_eq_valid_iff.mp (Checked.outcome_eq_ok_iff.mp made)
  rw [named]
  rfl

end UsageCounter

namespace Plan

variable {plan : Plan} {userId : Value} {start finish : Option DateTime} {now : DateTime} {counters : List UsageCounter}

theorem finish_of_mem_usageWindows {windows : List (FeatureKey × Option DateTime)}
    (opened : plan.usageWindows finish now = .ok windows) :
    ∀ window ∈ windows, window.2 = finish ∨ window.2 = some (DateTime.dayEnd now.date) := by
  have joined : ∀ {credits storage : List (FeatureKey × Option DateTime)},
      (∀ window ∈ credits, window.2 = finish ∨ window.2 = some (DateTime.dayEnd now.date)) →
      storage ⊆ [(.storageMb, finish)] →
      ∀ window ∈ credits ++ storage, window.2 = finish ∨ window.2 = some (DateTime.dayEnd now.date) := by
    intro credits storage daily stored window listed
    rcases List.mem_append.mp listed with here | there
    · exact daily window here
    · exact .inl (congrArg Prod.snd (List.mem_singleton.mp (stored there)))
  unfold usageWindows at opened
  dsimp only at opened
  split at opened
  next =>
    cases opened
    refine joined nofun ?_
    split <;> simp
  next => cases opened
  next cycleEnd _ =>
    obtain ⟨close, closes, opened⟩ := Outcome.bind_eq_ok_iff.mp opened
    obtain ⟨early, -, closes⟩ := Outcome.bind_eq_ok_iff.mp closes
    cases opened
    cases closes
    refine joined (fun window listed => ?_) ?_
    · rw [List.mem_singleton.mp listed]
      cases early
      · exact .inr rfl
      · exact .inl rfl
    · split <;> simp

theorem mem_freshCounters (fresh : plan.freshCounters userId start finish now = .ok counters) {counter : UsageCounter}
    (listed : counter ∈ counters) :
    userId = .text counter.userId ∧ start = some counter.start ∧ counter.used = .whole 0 ∧
      (finish = some counter.finish ∨ counter.finish = DateTime.dayEnd now.date) := by
  obtain ⟨windows, opened, made⟩ := Outcome.bind_eq_ok_iff.mp fresh
  obtain ⟨window, there, built⟩ := Outcome.mem_of_mapM made counter listed
  obtain ⟨named, starts, ends, -, zero⟩ := UsageCounter.opened_eq_valid_iff.mp (Checked.outcome_eq_ok_iff.mp built)
  refine ⟨named, starts, zero, ?_⟩
  rcases finish_of_mem_usageWindows opened window there with same | same
  · exact .inl (same.symm.trans ends)
  · exact .inr (Option.some.inj (ends.symm.trans same))

theorem named_of_freshCounters (fresh : plan.freshCounters userId start finish now = .ok counters) :
    ∀ counter ∈ counters, userId.named? = some counter.userId := by
  intro counter listed
  rw [(mem_freshCounters fresh listed).1]
  rfl

end Plan

namespace MemoryStore

def resetsOf (store : MemoryStore) (userId : String) : List ResetCall :=
  store.resets.filter fun call => call.userId.named? = some userId

/-- Whether two stores hold the same of a user: the account, the entitlement, the counters and the resets that were
asked for. -/
structure SameFor (userId : String) (before after : MemoryStore) : Prop where
  user : after.users.get? userId = before.users.get? userId
  entitlement : after.entitlements.get? userId = before.entitlements.get? userId
  usage : ∀ key, key.userId = userId → after.usage.get? key = before.usage.get? key
  listed : ∀ key, key.userId = userId → after.listedStarts.get? key = before.listedStarts.get? key
  resets : after.resetsOf userId = before.resetsOf userId

/-- Whether two stores sell the same plans and hold the same of all users but one at most. -/
structure SameButFor (who : Option String) (before after : MemoryStore) : Prop where
  plans : after.plans = before.plans
  others : ∀ userId, who ≠ some userId → SameFor userId before after

theorem SameFor.refl (userId : String) (store : MemoryStore) : SameFor userId store store :=
  ⟨rfl, rfl, fun _ _ => rfl, fun _ _ => rfl, rfl⟩

theorem SameFor.trans {userId : String} {first second third : MemoryStore} (before : SameFor userId first second)
    (after : SameFor userId second third) : SameFor userId first third where
  user := after.user.trans before.user
  entitlement := after.entitlement.trans before.entitlement
  usage key owner := (after.usage key owner).trans (before.usage key owner)
  listed key owner := (after.listed key owner).trans (before.listed key owner)
  resets := after.resets.trans before.resets

namespace SameButFor

variable {who : Option String} {store between after : MemoryStore}

theorem refl (who : Option String) (store : MemoryStore) : SameButFor who store store :=
  ⟨rfl, fun userId _ => .refl userId store⟩

theorem trans (before : SameButFor who store between) (later : SameButFor who between after) :
    SameButFor who store after :=
  ⟨later.plans.trans before.plans, fun userId other => (before.others userId other).trans (later.others userId other)⟩

theorem of_none (same : SameButFor none store after) (who : Option String) : SameButFor who store after :=
  ⟨same.plans, fun userId _ => same.others userId nofun⟩

theorem assignCustomer (store : MemoryStore) (userId : String) (customerId : Value) :
    SameButFor (some userId) store (store.assignCustomer userId customerId).2 := by
  unfold MemoryStore.assignCustomer
  split
  next => exact .refl _ store
  next user found =>
    refine ⟨rfl, fun other different => ⟨?_, rfl, fun _ _ => rfl, fun _ _ => rfl, rfl⟩⟩
    exact OrderedMap.get?_insert_of_ne _ _ fun same => different (congrArg some same.symm)

theorem addEntitlement (store : MemoryStore) (entitlement : Entitlement) :
    SameButFor (some entitlement.userId) store (store.addEntitlement entitlement) := by
  refine ⟨rfl, fun other different => ⟨rfl, ?_, fun _ _ => rfl, fun _ _ => rfl, rfl⟩⟩
  exact OrderedMap.get?_insert_of_ne _ _ fun same => different (congrArg some same.symm)

theorem ne_of_owner {key other : UsageKey} {userId : String} (owner : other.userId = userId)
    (different : some key.userId ≠ some userId) : other ≠ key := by
  rintro rfl
  exact different (congrArg some owner)

theorem addCounter (store : MemoryStore) (counter : UsageCounter) :
    SameButFor (some counter.userId) store (store.addCounter counter) := by
  refine ⟨rfl, fun userId different => ⟨rfl, rfl, fun key owner => ?_, fun key owner => ?_, rfl⟩⟩
  · exact OrderedMap.get?_insert_of_ne _ _ (ne_of_owner owner different)
  · exact OrderedMap.get?_insertNew_of_ne _ _ (ne_of_owner owner different)

theorem addCounters (store : MemoryStore) {counters : List UsageCounter}
    (owned : ∀ counter ∈ counters, who = some counter.userId) :
    SameButFor who store (counters.foldl MemoryStore.addCounter store) := by
  induction counters generalizing store with
  | nil => exact .refl who store
  | cons counter rest ih =>
    have first := addCounter store counter
    rw [← owned counter List.mem_cons_self] at first
    exact first.trans (ih _ fun other member => owned other (List.mem_cons_of_mem _ member))

theorem resetUsage (store : MemoryStore) (now : DateTime) (userId : Value) (plan : Plan)
    (start finish : Option DateTime) :
    SameButFor userId.named? store (store.resetUsage now userId plan start finish).2 := by
  have recorded : SameButFor userId.named? store
      { store with resets := store.resets ++ [⟨userId, plan.id, start, finish⟩] } := by
    refine ⟨rfl, fun other different => ⟨rfl, rfl, fun _ _ => rfl, fun _ _ => rfl, ?_⟩⟩
    simp [resetsOf, List.filter_append, different]
  unfold MemoryStore.resetUsage
  dsimp only
  split
  next => exact recorded
  next counters fresh => exact recorded.trans (addCounters _ (Plan.named_of_freshCounters fresh))

theorem openCounter (store : MemoryStore) (userId : Value) (feature : FeatureKey) (start finish : Option DateTime) :
    SameButFor userId.named? store (store.openCounter userId feature start finish).2 := by
  unfold MemoryStore.openCounter
  split
  next => exact .refl _ store
  next =>
    split
    next => exact .refl _ store
    next =>
      split
      next => exact .refl _ store
      next counter opened =>
        rw [UsageCounter.named_of_opened opened]
        exact addCounter store counter

theorem spend (store : MemoryStore) (key : UsageKey) (amount limit : Value) :
    SameButFor (some key.userId) store (store.spend key amount limit).2 := by
  unfold MemoryStore.spend
  split
  next => exact .refl _ store
  next =>
    split
    next =>
      split
      next =>
        refine ⟨rfl, fun userId different => ⟨rfl, rfl, fun other owner => ?_, fun _ _ => rfl, rfl⟩⟩
        exact OrderedMap.get?_insert_of_ne _ _ (ne_of_owner owner different)
      next => exact .refl _ store
    next => exact .refl _ store

theorem erase (store : MemoryStore) (userId : String) :
    SameButFor (some userId) store { store with entitlements := store.entitlements.erase userId } := by
  refine ⟨rfl, fun other different => ⟨rfl, ?_, fun _ _ => rfl, fun _ _ => rfl, rfl⟩⟩
  exact OrderedMap.get?_erase_of_ne _ fun same => different (congrArg some same.symm)

theorem revoke (store : MemoryStore) (userId : String) : SameButFor (some userId) store (store.revoke userId) := by
  refine (erase store userId).trans
    ⟨rfl, fun other different => ⟨rfl, rfl, fun key owner => ?_, fun key owner => ?_, rfl⟩⟩
  all_goals
    have kept : (key.userId == userId) = false :=
      beq_false_of_ne fun same => different (congrArg some (same.symm.trans owner))
    simp only [MemoryStore.revoke, OrderedMap.get?_eraseWhere, kept, Bool.false_eq_true, ↓reduceIte]

end SameButFor

/-- The user whose data an operation may change. -/
def touched (store : MemoryStore) : StoreOp → Option String
  | .assignCustomer userId _ | .resetUsage userId .. | .openCounter userId .. | .spend userId .. | .revoke userId =>
      userId.named?
  | .saveEntitlement entitlement => some entitlement.userId
  | .revokeSubscription subscriptionId => store.ownerOf subscriptionId
  | _ => none

theorem apply_sameButFor (store : MemoryStore) (now : DateTime) (op : StoreOp) :
    SameButFor (store.touched op) store (store.apply now op).2 := by
  cases op with
  | assignCustomer userId customerId =>
    cases userId with
    | text userId => exact .assignCustomer store userId customerId
    | _ => exact .refl _ store
  | saveEntitlement entitlement =>
    exact .addEntitlement store { entitlement with createdAt := _, updatedAt := some now }
  | resetUsage userId plan start finish => exact .resetUsage store now userId plan start finish
  | openCounter userId feature start finish => exact .openCounter store userId feature start finish
  | spend userId feature start amount limit =>
    cases userId with
    | text userId =>
      cases start with
      | none => exact .refl _ store
      | some start => exact .spend store ⟨userId, feature, start.moment⟩ amount limit
    | _ => exact .refl _ store
  | revoke userId =>
    cases userId with
    | text userId => exact .revoke store userId
    | _ => exact .refl _ store
  | revokeSubscription subscriptionId =>
    change SameButFor (store.ownerOf subscriptionId) store (store.revokeSubscription subscriptionId).2
    unfold revokeSubscription
    cases store.ownerOf subscriptionId with
    | none => exact .refl _ store
    | some owner => exact .erase store owner
  | _ => exact .refl _ store

end MemoryStore

end PaidAccess
