import PaidAccess.Plan
import PaidAccess.Usage
import PaidAccess.Failure
/-!
The windows of usage counters. Credits are a daily quota, so their window closes with the day and
never after the paid period; storage lasts as long as the paid period.
-/

namespace PaidAccess

/-- The end of a credit window: the last instant of the day, or the end of the paid period if that is
earlier. -/
def creditsEnd (now cycleEnd : DateTime) : Outcome DateTime := do
  let dayEnd := DateTime.dayEnd now.date
  return if ← cycleEnd.before dayEnd then cycleEnd else dayEnd

def dailyWindow (now cycleEnd : DateTime) : Outcome (DateTime × DateTime) := do
  let finish ← creditsEnd now cycleEnd
  return (DateTime.dayStart now.date, finish)

/-- The counters that a plan carries, each with the end of its window. Without an end of the paid period
there is none for credits. -/
def Plan.usageWindows (plan : Plan) (cycleEnd : Option DateTime) (now : DateTime) :
    Outcome (List (FeatureKey × Option DateTime)) := do
  let credits ← match plan.dailyCredits, cycleEnd with
    | none, _ => pure []
    | some _, none => throw .mismatch
    | some _, some cycleEnd => do
        let finish ← creditsEnd now cycleEnd
        pure [(FeatureKey.aiCredits, some finish)]
  let storage := match plan.storageMegabytes with
    | some _ => [(FeatureKey.storageMb, cycleEnd)]
    | none => []
  return credits ++ storage

def Plan.freshCounters (plan : Plan) (userId : Value) (start finish : Option DateTime) (now : DateTime) :
    Outcome (List UsageCounter) := do
  let windows ← plan.usageWindows finish now
  windows.mapM fun window => (UsageCounter.opened userId window.1 start window.2).outcome

end PaidAccess
