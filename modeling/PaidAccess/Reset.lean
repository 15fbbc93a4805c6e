import PaidAccess.Entitlement
import PaidAccess.Event
import PaidAccess.Failure
/-!
Whether an activation starts a new usage cycle. Each trigger is sufficient on its own; when none
fires, the counters stay as they are, so that a redelivered event hands out no quota twice.
-/

namespace PaidAccess

structure Activation where
  source : EventSource
  simulated : Bool
  previous : Option Entitlement
  /-- The plan and the subscription, unknown ones being unlike all others. -/
  planId : Option String
  subscriptionId : Option String
  cycleStart : Option DateTime

namespace Activation

def isNewCycle (activation : Activation) : Outcome Bool :=
  match activation.previous with
  | none => .ok true
  | some previous =>
      match activation.cycleStart with
      | some start => previous.expiresAt.atMost start
      | none => .error .mismatch

def isNewSubscription (activation : Activation) : Bool :=
  match activation.previous with
  | none => true
  | some previous => activation.subscriptionId != some previous.subscriptionId

def isPlanChange (activation : Activation) : Bool :=
  match activation.previous with
  | none => false
  | some previous => activation.planId != some previous.planId

/-- Whether the counters start over: always for a simulated activation, for a completed checkout on a
new subscription, for a paid invoice in a new cycle, and for an update in a new cycle or to another
plan. -/
def resetsUsage (activation : Activation) : Outcome Bool := do
  let newCycle ← activation.isNewCycle
  if activation.simulated then return true
  match activation.source with
  | .checkoutCompleted => return activation.isNewSubscription
  | .invoicePaid => return newCycle
  | .subscriptionUpdated => return newCycle || activation.isPlanChange
  | .subscriptionDeleted => return false

end Activation

/-- Whether an event starts a new usage cycle. Only a status that grants access can. -/
def resetsUsage (bucket : StatusBucket) (activation : Activation) : Outcome Bool :=
  match bucket with
  | .entitled => activation.resetsUsage
  | _ => .ok false

end PaidAccess
