import PaidAccess.Service.State
/-!
Actions of a running service. An action that fails keeps everything that it did before: a store that
was changed stays changed, and what was logged stays logged.
-/

namespace PaidAccess

abbrev Action := ExceptT Failure (StateM Service)

namespace Action

variable {α β : Type}

def run (action : Action α) (service : Service) : Outcome α × Service :=
  StateT.run (ExceptT.run action) service

def of (step : Service → Outcome α × Service) : Action α := ExceptT.mk fun service => step service

def lift (outcome : Outcome α) : Action α := of fun service => (outcome, service)

def fail (failure : Failure) : Action α := lift (.error failure)

def refuse (error : BillingError) : Action α := fail (.billing error)

def update (change : Service → Service) : Action Unit := of fun service => (.ok (), change service)

def read (view : Service → α) : Action α := of fun service => (.ok (view service), service)

def recover (action : Action α) (handler : Failure → Action α) : Action α := of fun service =>
  match action.run service with
  | (.ok value, after) => (.ok value, after)
  | (.error failure, after) => (handler failure).run after

def now : Action DateTime := read (·.now)

def log (entry : LogEntry) : Action Unit := update (·.logged entry)

/-- Lets a call through or fails as planned for it. -/
def pass (point : FaultPoint) : Action Unit := of fun service =>
  match service.nextFault point with
  | (some failure, after) => (.error failure, after)
  | (none, after) => (.ok (), after)

/-- Asks the provider. A request that its interface does not take is not sent; any other is recorded
before a planned failure takes effect. -/
def ask (request : ProviderRequest) : Action Value := do
  if !(← read (·.provider.takes request)) then fail .mismatch
  update (·.requested request)
  pass (.provider request.method)
  of fun service =>
    let (outcome, provider) := service.provider.serve request
    (outcome, { service with provider := provider })

def converse (store : RemoteStore) : Dialogue α → Action α
  | .done outcome => lift outcome
  | .remark entry next => do
      log entry
      converse store next
  | .ask query next => do
      let rows ← of fun service =>
        match service.store with
        | .remote store replies =>
            let (outcome, rest) := Store.nextReply query.target replies
            (outcome, { service.queried query with store := .remote store rest })
        | .memory _ => (.ok [], service.queried query)
      converse store (next rows)

def perform (op : StoreOp) : Action op.Result := do
  pass (.store op.method)
  of fun service =>
    match service.store with
    | .memory store =>
        let (outcome, after) := store.apply service.now op
        (outcome, { (store.remarks op).foldl Service.logged service with store := .memory after })
    | .remote store _ => (converse store (store.program service.now op)).run service

def findUser (customerId internalId : Option String) : Action (Option User) :=
  perform (.findUser (.ofText? customerId) (.ofText? internalId))

def assignCustomer (userId : String) (customerId : Value) : Action (Option User) :=
  perform (.assignCustomer (.text userId) customerId)

def findPlanByProduct (productId : String) : Action (Option Plan) :=
  perform (.findPlanByProduct (.text productId))

def findPlan (planId : String) : Action (Option Plan) := perform (.findPlan (.text planId))

def findEntitlement (userId : String) : Action (Option Entitlement) :=
  perform (.findEntitlement (.text userId))

def saveEntitlement (entitlement : Entitlement) : Action Entitlement :=
  perform (.saveEntitlement entitlement)

def resetUsage (userId : String) (plan : Plan) (start finish : DateTime) :
    Action (List UsageCounter) :=
  perform (.resetUsage (.text userId) plan (some start) (some finish))

def findActiveUsage (userId : String) (feature : FeatureKey) (time : DateTime) :
    Action (Option UsageCounter) :=
  perform (.findActiveUsage (.text userId) feature (some time))

def openCounter (userId : String) (feature : FeatureKey) (start finish : DateTime) :
    Action UsageCounter :=
  perform (.openCounter (.text userId) feature (some start) (some finish))

def activeEntitlements (time : DateTime) : Action (List Entitlement) :=
  perform (.activeEntitlements (some time))

def revoke (userId : String) : Action Unit := perform (.revoke (.text userId))

def revokeSubscription (subscriptionId : String) : Action (Option String) :=
  perform (.revokeSubscription (.text subscriptionId))

end Action

end PaidAccess
