import PaidAccess.Store.Memory
import PaidAccess.Store.Remote
import PaidAccess.Provider.Request
import PaidAccess.Registry
import PaidAccess.Session
import PaidAccess.Settings.Basic
/-!
The state of a running service: its clock, its store and provider, the connections of its users, the
work that is waiting, and a journal of what was done.
-/

namespace PaidAccess

inductive Reply where
  | rows (rows : List Value)
  | failed (message : String)

/-- The store in use. A remote store comes with the answers that its queries receive, by target; a
query without a prepared answer finds no rows. -/
inductive Store where
  | memory (store : MemoryStore)
  | remote (store : RemoteStore) (replies : OrderedMap String (List Reply))

inductive FaultPoint where
  | store (method : StoreMethod)
  | provider (method : ProviderMethod)
  deriving DecidableEq

inductive Notifier where
  /-- To the connections in the registry. -/
  | registry
  /-- Not at all. -/
  | silent
  /-- Every attempt fails. -/
  | broken
  deriving DecidableEq

inductive Delivery where
  | accepted (connection : Connection)
  | message (connection : Connection) (notice : Notice)
  | closed (connection : Connection) (code : Nat)

/-- An activation that completes a checkout locally after a delay. -/
structure Simulation where
  sessionId : Value
  priceId : Value
  customerId : Value
  userId : Value
  /-- The log context of the request that scheduled it. -/
  context : Fields

inductive TokenReply where
  | user (id email : Value)
  /-- A user without an id, which makes the answer unreadable. -/
  | nameless
  | noUser
  | noResponse
  | refused

structure Availability where
  identity : Bool
  registry : Bool
  provider : Bool
  billing : Bool
  usage : Bool
  deriving DecidableEq

/-- How the service is set up. -/
structure Deployment where
  provider : ProviderConfig
  billing : BillingConfig
  /-- How old a signed message of the provider may be, in seconds. -/
  tolerance : Int
  origins : List String
  tokens : OrderedMap String TokenReply
  available : Availability
  notifier : Notifier

/-- What was done: log entries, requests to the provider, queries and deliveries. -/
structure Journal where
  entries : List LogEntry
  requests : List ProviderRequest
  queries : List Query
  deliveries : List Delivery

def Journal.empty : Journal := ⟨[], [], [], []⟩

structure OpenSocket where
  serial : Nat
  userId : String

/-- A running service. -/
structure Service where
  deployment : Deployment
  now : DateTime
  store : Store
  provider : Provider
  /-- The outcomes that are planned for the next calls at each place: none lets a call through. -/
  faults : FaultPoint → List (Option Failure)
  registry : Registry
  links : Links
  /-- The sockets by their names, those that are closed among them. -/
  sockets : OrderedMap String (Option OpenSocket)
  /-- How many sockets were opened so far. -/
  socketsOpened : Nat
  simulations : List Simulation
  /-- What the log entries of the current request have in common. -/
  context : Fields
  journal : Journal

def Store.nextReply (target : String) (replies : OrderedMap String (List Reply)) :
    Outcome (List Value) × OrderedMap String (List Reply) :=
  match (replies.get? target).getD [] with
  | [] => (.ok [], replies)
  | .rows rows :: rest => (.ok rows, replies.insert target rest)
  | .failed message :: rest => (.error (.runtime message), replies.insert target rest)

namespace Service

def logged (service : Service) (entry : LogEntry) : Service :=
  { service with journal := { service.journal with
      entries := service.journal.entries ++ [entry.within service.context] } }

def requested (service : Service) (request : ProviderRequest) : Service :=
  { service with journal := { service.journal with
      requests := service.journal.requests ++ [request] } }

def queried (service : Service) (query : Query) : Service :=
  { service with journal := { service.journal with queries := service.journal.queries ++ [query] } }

def delivered (service : Service) (delivery : Delivery) : Service :=
  { service with journal := { service.journal with
      deliveries := service.journal.deliveries ++ [delivery] } }

/-- Plans the outcome of a later call at a place, after those that are already planned. -/
def plan (service : Service) (point : FaultPoint) (outcomes : List (Option Failure)) : Service :=
  { service with faults := fun other =>
      if other = point then service.faults point ++ outcomes else service.faults other }

/-- The planned outcome of a call at a place, and the service with the plan used up by one. -/
def nextFault (service : Service) (point : FaultPoint) : Option Failure × Service :=
  match service.faults point with
  | [] => (none, service)
  | planned :: rest =>
      (planned, { service with faults := fun other =>
        if other = point then rest else service.faults other })

def memory? (service : Service) : Option MemoryStore :=
  match service.store with
  | .memory store => some store
  | .remote .. => none

end Service

end PaidAccess
