import PaidAccess.Service.Action
/-!
Delivering messages to the live connections of a user. A connection that fails is taken out of the
registry, and the others still receive the message.
-/

namespace PaidAccess.Delivery

open PaidAccess.Action

def register (userId : String) (connection : Connection) : Action Unit := do
  update fun service => { service with registry := service.registry.register userId connection }
  log (.of .debug "notifier_connection_registered" [("user_id", .text userId)])

def unregister (userId : String) (connection : Connection) : Action Unit := do
  update fun service => { service with registry := service.registry.unregister userId connection }
  log (.of .debug "notifier_connection_unregistered" [("user_id", .text userId)])

def sendTo (connection : Connection) (notice : Notice) : Action Unit := of fun service =>
  let after := { service with links := service.links.tried connection }
  if service.links.fails connection then (.error (.runtime "connection closed"), after)
  else (.ok (), after.delivered (.message connection notice))

def attempt (userId : String) (notice : Notice) (connection : Connection) : Action Nat :=
  recover
    (do
      sendTo connection notice
      return 1)
    fun failure => do
      log (.about .warning "notifier_send_failed" [("user_id", .text userId)] failure)
      unregister userId connection
      return 0

def sendToAll (userId : String) (notice : Notice) : List Connection → Action Nat
  | [] => pure 0
  | connection :: rest => do
      let here ← attempt userId notice connection
      let others ← sendToAll userId notice rest
      return here + others

def send (userId : String) (notice : Notice) : Action Nat := do
  match ← read (·.deployment.notifier) with
  | .registry => do
      let connections ← read (·.registry.lookup userId)
      sendToAll userId notice connections
  | .silent => return 0
  | .broken => fail (.runtime "socket gone")

/-- Tells a user about a change. A message that cannot be delivered is not an error. -/
def notify (userId kind : String) (data : Fields) : Action Unit :=
  recover
    (do
      let _ ← send userId ⟨kind, data⟩
      return ())
    fun failure =>
      log (.about .warning "billing_notify_failed" [("user_id", .text userId)] failure)

end PaidAccess.Delivery
