import PaidAccess.Store.OrderedMap
import PaidAccess.Store.Operation
import PaidAccess.Usage.Windows
import PaidAccess.Log.Entry
/-!
The store in memory. Every operation is a function from a store to its outcome and the store after it;
an operation that fails leaves the store as it was, apart from the record of resets.
-/

namespace PaidAccess

structure ResetCall where
  userId : Value
  planId : String
  start : Option DateTime
  finish : Option DateTime
  deriving DecidableEq

/-- Accounts by id, plans by product, entitlements by user, counters by their key, and the resets that
were asked for, in order. -/
structure MemoryStore where
  users : OrderedMap String User
  plans : OrderedMap String Plan
  entitlements : OrderedMap String Entitlement
  usage : OrderedMap UsageKey UsageCounter
  /-- The start under which a key of counters is listed: that of the first counter with the key. -/
  listedStarts : OrderedMap UsageKey DateTime
  resets : List ResetCall

namespace MemoryStore

def empty : MemoryStore := ⟨∅, ∅, ∅, ∅, ∅, []⟩

def addUser (store : MemoryStore) (user : User) : MemoryStore :=
  { store with users := store.users.insert user.id user }

def addPlan (store : MemoryStore) (plan : Plan) : MemoryStore :=
  { store with plans := store.plans.insert plan.productId plan }

def addEntitlement (store : MemoryStore) (entitlement : Entitlement) : MemoryStore :=
  { store with entitlements := store.entitlements.insert entitlement.userId entitlement }

def addCounter (store : MemoryStore) (counter : UsageCounter) : MemoryStore :=
  { store with
    usage := store.usage.insert counter.key counter
    listedStarts := store.listedStarts.insertNew counter.key counter.start }

def listedUsage (store : MemoryStore) : List (DateTime × UsageCounter) :=
  store.usage.entries.map fun entry =>
    ((store.listedStarts.get? entry.1).getD entry.2.start, entry.2)

/-- What a value finds as a key. Only a text is a key; other values find nothing, and a list or a record
cannot even be looked for. -/
def atKey {α : Type} (missing : α) (find : String → α) : Value → Outcome α
  | .text key => .ok (find key)
  | .list _ | .record _ => .error .mismatch
  | _ => .ok missing

def userOfCustomer (store : MemoryStore) (customerId : Value) : Option User :=
  if customerId.truthy then store.users.values.find? fun user => user.customerId == customerId
  else none

def userOfId (store : MemoryStore) (internalId : Value) : Outcome (Option User) :=
  if internalId.truthy then atKey none store.users.get? internalId else .ok none

def findUser (store : MemoryStore) (customerId internalId : Value) : Outcome (Option User) :=
  match store.userOfCustomer customerId with
  | some user => .ok (some user)
  | none => store.userOfId internalId

def assignCustomer (store : MemoryStore) (userId : String) (customerId : Value) : Option User × MemoryStore :=
  match store.users.get? userId with
  | none => (none, store)
  | some user =>
      let updated := { user with customerId := customerId }
      (some updated, { store with users := store.users.insert userId updated })

def findPlan (store : MemoryStore) (planId : Value) : Option Plan :=
  store.plans.values.find? fun plan => planId.isText? (some plan.id)

/-- Saves an entitlement. It was created when its user's entitlement first was, and updated now. -/
def saveEntitlement (store : MemoryStore) (now : DateTime) (entitlement : Entitlement) :
    Entitlement × MemoryStore :=
  let created := match store.entitlements.get? entitlement.userId with
    | some existing => existing.createdAt
    | none => some now
  let stored := { entitlement with createdAt := created, updatedAt := some now }
  (stored, store.addEntitlement stored)

/-- Sets the counters of a plan to zero for a cycle. The call is recorded even if it fails. -/
def resetUsage (store : MemoryStore) (now : DateTime) (userId : Value) (plan : Plan)
    (start finish : Option DateTime) : Outcome (List UsageCounter) × MemoryStore :=
  let recorded := { store with resets := store.resets ++ [⟨userId, plan.id, start, finish⟩] }
  match plan.freshCounters userId start finish now with
  | .error failure => (.error failure, recorded)
  | .ok counters => (.ok counters, counters.foldl addCounter recorded)

/-- Whether a counter's window holds a point in time: from its start up to its end, which is left out. -/
def holds (time : Option DateTime) (counter : UsageCounter) : Outcome Bool := do
  match time with
  | none => throw .mismatch
  | some time => if ← counter.start.atMost time then time.before counter.finish else return false

def countersOf (store : MemoryStore) (userId : Value) (feature : FeatureKey) : List UsageCounter :=
  (store.usage.entries.filter fun entry =>
    userId.isText? (some entry.1.userId) && entry.1.feature = feature).map (·.2)

/-- The counter that started last; of those that started together the first. -/
def newest : List UsageCounter → Outcome (Option UsageCounter)
  | [] => .ok none
  | counter :: rest => do
      match ← newest rest with
      | none => return some counter
      | some later => return if ← counter.start.before later.start then some later else some counter

def findActiveUsage (store : MemoryStore) (userId : Value) (feature : FeatureKey)
    (time : Option DateTime) : Outcome (Option UsageCounter) := do
  let active ← Outcome.filter (holds time) (store.countersOf userId feature)
  newest active

def keyOf (userId : Value) (feature : FeatureKey) (start : Option DateTime) : Outcome (Option UsageKey) :=
  atKey none (fun userId => start.map fun start => ⟨userId, feature, start.moment⟩) userId

def openCounter (store : MemoryStore) (userId : Value) (feature : FeatureKey)
    (start finish : Option DateTime) : Outcome UsageCounter × MemoryStore :=
  match keyOf userId feature start with
  | .error failure => (.error failure, store)
  | .ok key =>
      match key.bind store.usage.get? with
      | some counter => (.ok counter, store)
      | none =>
          match (UsageCounter.opened userId feature start finish).outcome with
          | .error failure => (.error failure, store)
          | .ok counter => (.ok counter, store.addCounter counter)

def spentFrom (counter : UsageCounter) (amount limit : Amount) : Outcome (Option UsageCounter) :=
  match limit.sub? amount, counter.used.add? amount with
  | some room, some used =>
      .ok (if counter.used.exceeds room then none else some { counter with used := used })
  | _, _ => .error .overflow

/-- Adds to a counter that is there, unless the sum would exceed the limit. Amounts are looked at only
when the counter is there. -/
def spend (store : MemoryStore) (key : UsageKey) (amount limit : Value) :
    Outcome (Option UsageCounter) × MemoryStore :=
  match store.usage.get? key with
  | none => (.ok none, store)
  | some counter =>
      match Amount.ofValue? amount, Amount.ofValue? limit with
      | some amount, some limit =>
          match spentFrom counter amount limit with
          | .ok (some updated) =>
              (.ok (some updated), { store with usage := store.usage.insert key updated })
          | outcome => (outcome, store)
      | _, _ => (.error .mismatch, store)

def isActive (time : Option DateTime) (entitlement : Entitlement) : Outcome Bool :=
  match time with
  | some time => time.before entitlement.expiresAt
  | none => .error .mismatch

def activeEntitlements (store : MemoryStore) (time : Option DateTime) : Outcome (List Entitlement) :=
  Outcome.filter (isActive time) store.entitlements.values

def revoke (store : MemoryStore) (userId : String) : MemoryStore :=
  { store with
    entitlements := store.entitlements.erase userId
    usage := store.usage.eraseWhere (·.userId == userId)
    listedStarts := store.listedStarts.eraseWhere (·.userId == userId) }

def ownerOf (store : MemoryStore) (subscriptionId : Value) : Option String :=
  (store.entitlements.entries.find? fun entry =>
    subscriptionId.isText? (some entry.2.subscriptionId)).map (·.1)

def revokeSubscription (store : MemoryStore) (subscriptionId : Value) : Option String × MemoryStore :=
  match store.ownerOf subscriptionId with
  | none => (none, store)
  | some userId => (some userId, { store with entitlements := store.entitlements.erase userId })

def editAt {α : Type} (store : MemoryStore) (missing : α) (edit : String → α × MemoryStore)
    (key : Value) : Outcome α × MemoryStore :=
  match atKey (missing, store) edit key with
  | .ok (result, store) => (.ok result, store)
  | .error failure => (.error failure, store)

def apply (now : DateTime) (store : MemoryStore) : (op : StoreOp) → Outcome op.Result × MemoryStore
  | .findUser customerId internalId => (store.findUser customerId internalId, store)
  | .findUserByEmail email =>
      (.ok (store.users.values.find? fun user => email.isText? user.email), store)
  | .assignCustomer userId customerId =>
      store.editAt none (store.assignCustomer · customerId) userId
  | .findPlanByProduct productId => (atKey none store.plans.get? productId, store)
  | .findPlan planId => (.ok (store.findPlan planId), store)
  | .findEntitlement userId => (atKey none store.entitlements.get? userId, store)
  | .saveEntitlement entitlement =>
      let (stored, store) := store.saveEntitlement now entitlement
      (.ok stored, store)
  | .resetUsage userId plan start finish => store.resetUsage now userId plan start finish
  | .findActiveUsage userId feature time => (store.findActiveUsage userId feature time, store)
  | .openCounter userId feature start finish => store.openCounter userId feature start finish
  | .spend userId feature start amount limit =>
      match keyOf userId feature start with
      | .ok (some key) => store.spend key amount limit
      | .ok none => (.ok none, store)
      | .error failure => (.error failure, store)
  | .activeEntitlements time => (store.activeEntitlements time, store)
  | .revoke userId => store.editAt () (fun user => ((), store.revoke user)) userId
  | .revokeSubscription subscriptionId =>
      let (userId, store) := store.revokeSubscription subscriptionId
      (.ok userId, store)

def remarks (store : MemoryStore) : StoreOp → List LogEntry
  | .findUser customerId internalId =>
      if customerId.truthy && internalId.truthy && (store.userOfCustomer customerId).isNone then
        [.of .warning "billing_user_lookup_fallback"
          [("customer_id", customerId), ("internal_id", internalId)]]
      else []
  | .revokeSubscription subscriptionId =>
      match store.ownerOf subscriptionId with
      | none => [.of .warning "billing_entitlement_not_found" [("subscription_id", subscriptionId)]]
      | some _ => []
  | _ => []

end MemoryStore

end PaidAccess
