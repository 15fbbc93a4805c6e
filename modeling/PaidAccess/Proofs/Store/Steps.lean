import PaidAccess.Proofs.Store.Isolation
/-!
All that one operation can do to entitlements and to counters. It saves one entitlement or removes one; it opens counters, spends from
one or removes those of one user; or it leaves them as they are. What every operation preserves is read off from that.
-/

namespace PaidAccess

def StoreOp.window? : StoreOp → Option (Option DateTime × Option DateTime)
  | .resetUsage _ _ start finish | .openCounter _ _ start finish => some (start, finish)
  | _ => none

/-- Whether a counter is one that an operation may open: at zero, from the start of the window to its end or to that of a day. -/
structure StoreOp.Opens (op : StoreOp) (counter : UsageCounter) : Prop where
  zero : counter.used = .whole 0
  window : ∃ finish, op.window? = some (some counter.start, finish) ∧
    (finish = some counter.finish ∨ ∃ date, counter.finish = DateTime.dayEnd date)

namespace MemoryStore

variable {store after : MemoryStore} {now : DateTime} {op : StoreOp}

def revoked (store : MemoryStore) : StoreOp → Option String
  | .revoke userId => userId.named?
  | .revokeSubscription subscriptionId => (store.revokeSubscription subscriptionId).1
  | _ => none

def entitlementsAfter (store : MemoryStore) (now : DateTime) : StoreOp → OrderedMap String Entitlement
  | .saveEntitlement entitlement => store.entitlements.insert entitlement.userId (store.saveEntitlement now entitlement).1
  | op => ((store.revoked op).map store.entitlements.erase).getD store.entitlements

theorem entitlements_apply (store : MemoryStore) (now : DateTime) (op : StoreOp) :
    (store.apply now op).2.entitlements = store.entitlementsAfter now op := by
  cases op with
  | assignCustomer userId customerId =>
    cases userId with
    | text userId =>
      change (store.assignCustomer userId customerId).2.entitlements = store.entitlements
      unfold assignCustomer
      split <;> rfl
    | _ => rfl
  | resetUsage userId plan start finish =>
    change (store.resetUsage now userId plan start finish).2.entitlements = store.entitlements
    unfold resetUsage
    dsimp only
    split
    next => rfl
    next => rw [foldl_addCounter_eq]
  | openCounter userId feature start finish =>
    change (store.openCounter userId feature start finish).2.entitlements = store.entitlements
    unfold openCounter
    repeat' split
    all_goals rfl
  | spend userId feature start amount limit =>
    change (store.apply now (.spend userId feature start amount limit)).2.entitlements = store.entitlements
    unfold apply spend
    dsimp only
    repeat' split
    all_goals rfl
  | revoke userId => cases userId <;> rfl
  | revokeSubscription subscriptionId =>
    change (store.revokeSubscription subscriptionId).2.entitlements =
      ((store.revokeSubscription subscriptionId).1.map store.entitlements.erase).getD store.entitlements
    unfold revokeSubscription
    cases store.ownerOf subscriptionId <;> rfl
  | _ => rfl

/-- What becomes of the counters of a store. -/
inductive CountersStep (op : StoreOp) (store after : MemoryStore) : Prop where
  | kept (usage : after.usage = store.usage) (listed : after.listedStarts = store.listedStarts)
  | opened (counters : List UsageCounter) (opens : ∀ counter ∈ counters, op.Opens counter)
      (usage : after.usage = store.usage.enter UsageCounter.key counters)
      (listed : after.listedStarts =
        counters.foldl (fun listed counter => listed.insertNew counter.key counter.start) store.listedStarts)
  | spent {userId : Value} {feature : FeatureKey} {start : Option DateTime} {amount limit : Value} {key : UsageKey}
      {counter : UsageCounter} {added sum : Amount} (spends : op = .spend userId feature start amount limit)
      (found : store.usage.get? key = some counter) (given : Amount.ofValue? amount = some added)
      (total : counter.used.add? added = some sum) (usage : after.usage = store.usage.insert key { counter with used := sum })
      (listed : after.listedStarts = store.listedStarts)
  | revoked (userId : String) (usage : after.usage = store.usage.eraseWhere (·.userId == userId))
      (listed : after.listedStarts = store.listedStarts.eraseWhere (·.userId == userId))

theorem add?_of_spentFrom {counter updated : UsageCounter} {amount limit : Amount}
    (spent : spentFrom counter amount limit = .ok (some updated)) :
    ∃ sum, counter.used.add? amount = some sum ∧ updated = { counter with used := sum } := by
  unfold spentFrom at spent
  split at spent
  next sum _ total =>
    split at spent
    next => cases spent
    next =>
      cases spent
      exact ⟨sum, total, rfl⟩
  next => cases spent

namespace CountersStep

theorem resetUsage (store : MemoryStore) (now : DateTime) (userId : Value) (plan : Plan) (start finish : Option DateTime) :
    CountersStep (.resetUsage userId plan start finish) store (store.resetUsage now userId plan start finish).2 := by
  unfold MemoryStore.resetUsage
  dsimp only
  split
  next => exact .kept rfl rfl
  next counters fresh =>
    rw [foldl_addCounter_eq]
    refine .opened counters (fun counter listed => ?_) rfl rfl
    obtain ⟨-, starts, zero, ends⟩ := Plan.mem_freshCounters fresh listed
    exact ⟨zero, finish, by rw [← starts]; rfl, ends.imp_right fun day => ⟨_, day⟩⟩

theorem openCounter (store : MemoryStore) (userId : Value) (feature : FeatureKey) (start finish : Option DateTime) :
    CountersStep (.openCounter userId feature start finish) store (store.openCounter userId feature start finish).2 := by
  unfold MemoryStore.openCounter
  split
  next => exact .kept rfl rfl
  next =>
    split
    next => exact .kept rfl rfl
    next =>
      split
      next => exact .kept rfl rfl
      next counter made =>
        obtain ⟨-, starts, ends, -, zero⟩ := UsageCounter.opened_eq_valid_iff.mp (Checked.outcome_eq_ok_iff.mp made)
        refine .opened [counter] (fun other listed => ?_) rfl rfl
        obtain rfl := List.mem_singleton.mp listed
        exact ⟨zero, finish, by rw [← starts]; rfl, .inl ends⟩

theorem spend (store : MemoryStore) (userId : Value) (feature : FeatureKey) (start : Option DateTime) (amount limit : Value)
    (key : UsageKey) :
    CountersStep (.spend userId feature start amount limit) store (store.spend key amount limit).2 := by
  unfold MemoryStore.spend
  split
  next => exact .kept rfl rfl
  next counter found =>
    split
    next added room given _ =>
      split
      next updated spent =>
        obtain ⟨sum, total, rfl⟩ := add?_of_spentFrom spent
        exact .spent rfl found given total rfl rfl
      next => exact .kept rfl rfl
    next => exact .kept rfl rfl

end CountersStep

theorem countersStep_apply (store : MemoryStore) (now : DateTime) (op : StoreOp) :
    CountersStep op store (store.apply now op).2 := by
  cases op with
  | assignCustomer userId customerId =>
    cases userId with
    | text userId =>
      change CountersStep _ store (store.assignCustomer userId customerId).2
      unfold assignCustomer
      split <;> exact .kept rfl rfl
    | _ => exact .kept rfl rfl
  | resetUsage userId plan start finish => exact .resetUsage store now userId plan start finish
  | openCounter userId feature start finish => exact .openCounter store userId feature start finish
  | spend userId feature start amount limit =>
    unfold apply
    dsimp only
    split
    next key _ => exact .spend store userId feature start amount limit key
    next => exact .kept rfl rfl
    next => exact .kept rfl rfl
  | revoke userId =>
    cases userId with
    | text userId => exact .revoked userId rfl rfl
    | _ => exact .kept rfl rfl
  | revokeSubscription subscriptionId =>
    change CountersStep _ store (store.revokeSubscription subscriptionId).2
    unfold revokeSubscription
    split <;> exact .kept rfl rfl
  | _ => exact .kept rfl rfl

theorem forall_counters_apply {kind : UsageCounter → Prop} (held : ∀ key counter, store.usage.get? key = some counter → kind counter)
    (opens : ∀ counter, op.Opens counter → kind counter)
    (spends : ∀ userId feature start amount limit added counter sum, op = .spend userId feature start amount limit →
      Amount.ofValue? amount = some added → counter.used.add? added = some sum → kind counter → kind { counter with used := sum })
    (now : DateTime) : ∀ key counter, (store.apply now op).2.usage.get? key = some counter → kind counter := by
  intro key counter found
  cases countersStep_apply store now op with
  | kept usage => exact held key counter (usage ▸ found)
  | opened counters opened usage =>
    rw [usage] at found
    rcases OrderedMap.mem_or_get?_of_enter found with ⟨listed, -⟩ | old
    · exact opens counter (opened counter listed)
    · exact held key counter old
  | spent spends' there given total usage =>
    rw [usage, OrderedMap.get?_insert] at found
    split at found
    next =>
      cases found
      exact spends _ _ _ _ _ _ _ _ spends' given total (held _ _ there)
    next => exact held key counter found
  | revoked userId usage =>
    rw [usage, OrderedMap.get?_eraseWhere] at found
    split at found
    next => cases found
    next => exact held key counter found

end MemoryStore

end PaidAccess
