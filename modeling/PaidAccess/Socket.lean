import PaidAccess.Delivery
import PaidAccess.Identity
/-!
Sockets on which signed-in users receive messages. A socket that is refused is closed before it is
accepted. What a client sends only keeps the socket alive.
-/

namespace PaidAccess.Socket

open PaidAccess.Action

def policyViolation : Nat := 1008

def owner (token : Option String) : Action (Option AuthenticatedUser) := do
  let available ← read (·.deployment.available)
  match present? token, available.identity && available.registry with
  | some token, true => Identity.verify token
  | _, _ => return none

def accept (name userId : String) : Action Unit := do
  let serial ← read (·.socketsOpened)
  update (·.delivered (.accepted (.socket name serial)))
  update fun service =>
    { service with
      sockets := service.sockets.insert name (some ⟨serial, userId⟩), socketsOpened := serial + 1 }
  Delivery.register userId (.socket name serial)

/-- Accepts a socket, or closes it when there is nobody that it is for, and tells whether it is open. -/
def welcome (name : String) (token : Option String) : Action Bool := do
  match ← owner token with
  | some user => do
      accept name user.id
      return true
  | none => do
      update fun service =>
        service.delivered (.closed (.socket name service.socketsOpened) policyViolation)
      return false

/-- Gives up a name. The socket that had it is no longer reached by the name, but stays registered. -/
def release (name : String) : Action Unit :=
  update fun service => { service with sockets := service.sockets.insert name none }

def connect (name : String) (token : Option String) : Action Bool := do
  release name
  recover (welcome name token) fun _ => pure false

/-- The socket of a name, unless it is closed. There must have been one. -/
def find? (name : String) : Action (Option OpenSocket) := do
  match ← read (·.sockets.get? name) with
  | some socket => return socket
  | none => fail .noSuchKey

def isOpen (name : String) : Action Bool := do return (← find? name).isSome

def disconnect (name : String) : Action Unit := do
  match ← find? name with
  | none => return ()
  | some socket => do
      release name
      log (.of .debug "notifications_socket_closed" [("user_id", .text socket.userId)])
      Delivery.unregister socket.userId (.socket name socket.serial)

end PaidAccess.Socket
