import PaidAccess.Store.OrderedMap
/-!
The live connections of users, and how sending to them goes. A connection may be registered several times,
and is then removed once for each time. A user without connections is not kept.
-/

namespace PaidAccess

/-- Something that messages can be sent to: a client's connection or a socket of this service. Sockets of
one name are told apart by the order in which they were opened. -/
inductive Connection where
  | client (name : String)
  | socket (name : String) (serial : Nat)
  deriving DecidableEq

/-- How sending to connections goes. A try fails as it is planned or, once the plan for its connection is used
up, if the connection is cut off. -/
structure Links where
  /-- The clients' connections that were ever mentioned, and whether they are cut off. -/
  clients : OrderedMap String Bool
  /-- The sockets that are cut off, by the order in which they were opened. -/
  severed : List Nat
  /-- Whether each of the next tries at a connection fails. -/
  planned : Connection → List Bool

namespace Links

def whole : Links := ⟨∅, [], fun _ => []⟩

def cutOff (links : Links) : Connection → Bool
  | .client name => (links.clients.get? name).getD false
  | .socket _ serial => links.severed.contains serial

def fails (links : Links) (connection : Connection) : Bool :=
  (links.planned connection).head?.getD (links.cutOff connection)

def tried (links : Links) (connection : Connection) : Links :=
  { links with planned := fun other =>
      if other = connection then (links.planned connection).tail else links.planned other }

end Links

/-- The connections of each user, in the order of their registration. -/
structure Registry where
  connections : OrderedMap String (List Connection)

namespace Registry

def empty : Registry := ⟨∅⟩

def lookup (registry : Registry) (userId : String) : List Connection :=
  (registry.connections.get? userId).getD []

def assign (registry : Registry) (userId : String) (connections : List Connection) : Registry :=
  match connections with
  | [] => ⟨registry.connections.erase userId⟩
  | found => ⟨registry.connections.insert userId found⟩

def register (registry : Registry) (userId : String) (connection : Connection) : Registry :=
  registry.assign userId (registry.lookup userId ++ [connection])

def unregister (registry : Registry) (userId : String) (connection : Connection) : Registry :=
  registry.assign userId ((registry.lookup userId).erase connection)

end Registry

end PaidAccess
