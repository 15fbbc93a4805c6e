import PaidAccess.Store.Memory
import PaidAccess.Proofs.Store.OrderedMap
/-!
The shape that every store in memory has: each table lists a thing once, under the name that the thing
gives itself, and only counters that are there have a listed start. An empty store has it, and no
operation destroys it.
-/

namespace PaidAccess.MemoryStore

/-- The shape of a store. -/
structure Keyed (store : MemoryStore) : Prop where
  users : store.users.KeyedBy User.id
  plans : store.plans.KeyedBy Plan.productId
  entitlements : store.entitlements.KeyedBy Entitlement.userId
  usage : store.usage.KeyedBy UsageCounter.key
  listed : ∀ key ∈ store.listedStarts.keys, key ∈ store.usage.keys

theorem key_of_spentFrom {counter updated : UsageCounter} {amount limit : Amount}
    (spent : spentFrom counter amount limit = .ok (some updated)) : updated.key = counter.key := by
  unfold spentFrom at spent
  split at spent
  next =>
    split at spent
    next => cases spent
    next => cases spent; rfl
  next => cases spent

theorem foldl_addCounter_eq (store : MemoryStore) (counters : List UsageCounter) :
    counters.foldl addCounter store = { store with
      usage := store.usage.enter UsageCounter.key counters
      listedStarts := counters.foldl (fun listed counter => listed.insertNew counter.key counter.start) store.listedStarts } := by
  induction counters generalizing store with
  | nil => rfl
  | cons counter rest ih => exact ih (store.addCounter counter)

namespace Keyed

theorem empty : MemoryStore.empty.Keyed :=
  ⟨.empty, .empty, .empty, .empty, by intro key member; cases member⟩

variable {store : MemoryStore}

theorem addUser (keyed : store.Keyed) (user : User) : (store.addUser user).Keyed :=
  { keyed with users := keyed.users.insert rfl }

theorem addPlan (keyed : store.Keyed) (plan : Plan) : (store.addPlan plan).Keyed :=
  { keyed with plans := keyed.plans.insert rfl }

theorem addEntitlement (keyed : store.Keyed) (entitlement : Entitlement) :
    (store.addEntitlement entitlement).Keyed :=
  { keyed with entitlements := keyed.entitlements.insert rfl }

theorem addCounter (keyed : store.Keyed) (counter : UsageCounter) : (store.addCounter counter).Keyed := by
  refine { keyed with usage := keyed.usage.insert rfl, listed := ?_ }
  intro key member
  rcases OrderedMap.mem_keys_insertNew member with same | old
  · exact OrderedMap.mem_keys_insert.mpr (.inl same)
  · exact OrderedMap.mem_keys_insert.mpr (.inr (keyed.listed key old))

theorem replaceCounter (keyed : store.Keyed) {key : UsageKey} {counter updated : UsageCounter}
    (found : store.usage.get? key = some counter) (same : updated.key = counter.key) :
    ({ store with usage := store.usage.insert key updated } : MemoryStore).Keyed := by
  refine { keyed with usage := keyed.usage.insert (same.trans (keyed.usage.name_eq found)), listed := ?_ }
  intro other member
  exact OrderedMap.mem_keys_insert.mpr (.inr (keyed.listed other member))

theorem assignCustomer (keyed : store.Keyed) (userId : String) (customerId : Value) :
    (store.assignCustomer userId customerId).2.Keyed := by
  unfold MemoryStore.assignCustomer
  split
  next => exact keyed
  next user found =>
    have same : user.id = userId := keyed.users.name_eq found
    exact { keyed with users := keyed.users.insert same }

theorem resetUsage (keyed : store.Keyed) (now : DateTime) (userId : Value) (plan : Plan)
    (start finish : Option DateTime) : (store.resetUsage now userId plan start finish).2.Keyed := by
  have recorded : ({ store with resets := store.resets ++ [⟨userId, plan.id, start, finish⟩] } : MemoryStore).Keyed :=
    { keyed with }
  unfold MemoryStore.resetUsage
  dsimp only
  split
  next => exact recorded
  next counters fresh =>
    clear fresh
    revert recorded
    generalize ({ store with resets := _ } : MemoryStore) = before
    intro kept
    induction counters generalizing before with
    | nil => exact kept
    | cons counter rest ih => exact ih _ (kept.addCounter counter)

theorem openCounter (keyed : store.Keyed) (userId : Value) (feature : FeatureKey)
    (start finish : Option DateTime) : (store.openCounter userId feature start finish).2.Keyed := by
  unfold MemoryStore.openCounter
  split
  next => exact keyed
  next =>
    split
    next => exact keyed
    next =>
      split
      next => exact keyed
      next counter _ => exact keyed.addCounter counter

theorem spend (keyed : store.Keyed) (key : UsageKey) (amount limit : Value) :
    (store.spend key amount limit).2.Keyed := by
  unfold MemoryStore.spend
  split
  next => exact keyed
  next counter found =>
    split
    next =>
      split
      next updated spent => exact keyed.replaceCounter found (key_of_spentFrom spent)
      next => exact keyed
    next => exact keyed

theorem revoke (keyed : store.Keyed) (userId : String) : (store.revoke userId).Keyed := by
  refine { keyed with
    entitlements := keyed.entitlements.erase userId
    usage := keyed.usage.eraseWhere fun key => key.userId == userId
    listed := ?_ }
  intro key member
  have ⟨present, kept⟩ := OrderedMap.mem_keys_eraseWhere.mp member
  exact OrderedMap.mem_keys_eraseWhere.mpr ⟨keyed.listed key present, kept⟩

theorem revokeSubscription (keyed : store.Keyed) (subscriptionId : Value) :
    (store.revokeSubscription subscriptionId).2.Keyed := by
  unfold MemoryStore.revokeSubscription
  split
  next => exact keyed
  next owner _ => exact { keyed with entitlements := keyed.entitlements.erase owner }

theorem apply (keyed : store.Keyed) (now : DateTime) (op : StoreOp) : (store.apply now op).2.Keyed := by
  cases op with
  | assignCustomer userId customerId =>
    cases userId with
    | text userId => exact keyed.assignCustomer userId customerId
    | _ => exact keyed
  | saveEntitlement entitlement => exact keyed.addEntitlement _
  | resetUsage userId plan start finish => exact keyed.resetUsage now userId plan start finish
  | openCounter userId feature start finish => exact keyed.openCounter userId feature start finish
  | spend userId feature start amount limit =>
    unfold MemoryStore.apply
    dsimp only
    split
    next key _ => exact keyed.spend key amount limit
    next => exact keyed
    next => exact keyed
  | revoke userId =>
    cases userId with
    | text userId => exact keyed.revoke userId
    | _ => exact keyed
  | revokeSubscription subscriptionId => exact keyed.revokeSubscription subscriptionId
  | _ => exact keyed

end Keyed

end PaidAccess.MemoryStore
