import PaidAccess.Service.Action
/-!
Daily credits: spending them, and opening each day's counters.
-/

namespace PaidAccess.Credits

open PaidAccess.Action

/-- Today's counter of a subscriber: the newest that holds now, or one that is opened for today. -/
def todaysCounter (entitlement : Entitlement) (now : DateTime) : Action UsageCounter := do
  match ← findActiveUsage entitlement.userId .aiCredits now with
  | some counter => return counter
  | none => do
      let (start, finish) ← lift (dailyWindow now entitlement.expiresAt)
      openCounter entitlement.userId .aiCredits start finish

def unexpired (userId : Value) (now : DateTime) : Action Entitlement := do
  match ← perform (.findEntitlement userId) with
  | none => refuse .subscriptionMissing
  | some entitlement => do
      if ← lift (entitlement.expiresAt.atMost now) then refuse .subscriptionMissing
      return entitlement

def quota (planId : String) : Action Int := do
  match (← findPlan planId).bind (·.dailyCredits) with
  | none => refuse .planWithoutCredits
  | some credits => return credits

def report (limit : Int) (counter : UsageCounter) : Outcome CreditUsage :=
  match (Amount.whole limit).sub? counter.used with
  | some remaining => (CreditUsage.ofAmounts counter.used remaining limit counter.finish).outcome
  | none => .error .overflow

/-- Spends some of a user's credits for today. What is spent stays spent if it cannot be reported. -/
def consume (userId : Value) (amount : Amount) : Action CreditUsage := do
  if amount.atMost (.whole 0) then refuse .amountNotPositive
  let now ← now
  let bound : Fields := [("user_id", userId), ("amount", amount.toValue)]
  let entitlement ← unexpired userId now
  let limit ← quota entitlement.planId
  let counter ← todaysCounter entitlement now
  match ← perform
      (.spend userId .aiCredits (some counter.start) amount.toValue (.int limit)) with
  | none => do
      log (.of .info "billing_credit_limit_exceeded"
        (bound ++ [("used_amount", counter.used.toValue), ("daily_limit", .int limit)]))
      refuse .creditLimitExceeded
  | some updated => do
      log (.of .info "billing_credits_consumed" (bound ++ [("used_amount", updated.used.toValue)]))
      lift (report limit updated)

def cachedPlan (planId : String) (found : OrderedMap String (Option Plan)) :
    Action (Option Plan × OrderedMap String (Option Plan)) := do
  match found.get? planId with
  | some plan => return (plan, found)
  | none => do
      let plan ← findPlan planId
      return (plan, found.insert planId plan)

def openToday (now : DateTime) (entitlement : Entitlement) : Action Nat :=
  recover
    (do
      let (start, finish) ← lift (dailyWindow now entitlement.expiresAt)
      let _ ← openCounter entitlement.userId .aiCredits start finish
      return 1)
    fun failure => do
      log (.about .error "billing_daily_reset_failed" [("user_id", .text entitlement.userId)] failure)
      return 0

def openAll (now : DateTime) (found : OrderedMap String (Option Plan)) : List Entitlement → Action Nat
  | [] => pure 0
  | entitlement :: rest => do
      let (plan, found) ← cachedPlan entitlement.planId found
      let here ← match plan.bind (·.dailyCredits) with
        | some _ => openToday now entitlement
        | none => pure 0
      let others ← openAll now found rest
      return here + others

/-- Opens today's counters of all active subscribers and tells how many are open. Counters that are
there already stay as they are. -/
def resetDaily : Action Nat := do
  let now ← now
  let entitlements ← activeEntitlements now
  let opened ← openAll now ∅ entitlements
  log (.of .info "billing_daily_reset_completed"
    [("active", .int entitlements.length), ("opened", .int opened)])
  return opened

end PaidAccess.Credits
