import PaidAccess.Validation.Lenient
import PaidAccess.Number.Amount
/-!
Usage counters. A counter belongs to a user, a feature and the start of its window, and counts up to
the window's end. Rows hold integers, but a counter takes over whatever amount is spent from it.
-/

namespace PaidAccess

open Checked Lenient

inductive FeatureKey where
  | aiCredits
  | storageMb
  deriving DecidableEq

namespace FeatureKey

def name : FeatureKey → String
  | .aiCredits => "ai_credits"
  | .storageMb => "storage_mb"

def ofName? (name : String) : Option FeatureKey :=
  if name = "ai_credits" then some .aiCredits
  else if name = "storage_mb" then some .storageMb
  else none

def ofValue : Value → Checked FeatureKey := Lenient.named ofName? .enumValue

end FeatureKey

structure UsageCounter where
  userId : String
  feature : FeatureKey
  used : Amount
  start : DateTime
  finish : DateTime
  deriving DecidableEq

/-- What a counter is found by. Two starts at the same instant are the same key. -/
structure UsageKey where
  userId : String
  feature : FeatureKey
  start : Moment
  deriving DecidableEq

namespace UsageCounter

def key (counter : UsageCounter) : UsageKey := ⟨counter.userId, counter.feature, counter.start.moment⟩

def given : Option DateTime → Checked DateTime
  | some time => valid time
  | none => fault .datetimeType

def opened (userId : Value) (feature : FeatureKey) (start finish : Option DateTime) :
    Checked UsageCounter :=
  (fun userId start finish => ⟨userId, feature, .whole 0, start, finish⟩)
    <$> (text userId).within (.field "user_id") <*> (given start).within (.field "cycle_started_at")
    <*> (given finish).within (.field "cycle_ends_at")

def usedOfValue (value : Value) : Checked Amount := Amount.whole <$> integerFrom 0 value

def ofValue : Value → Checked UsageCounter :=
  model fun row =>
    UsageCounter.mk <$> required "user_id" text row
      <*> required "feature_key" FeatureKey.ofValue row
      <*> defaulted "used_amount" (.whole 0) usedOfValue row
      <*> required "cycle_started_at" time row
      <*> required "cycle_ends_at" time row

def toValue (stamp : DateTime → String) (counter : UsageCounter) : Value :=
  .record [("user_id", .text counter.userId), ("feature_key", .text counter.feature.name),
    ("used_amount", counter.used.toValue), ("cycle_started_at", .text (stamp counter.start)),
    ("cycle_ends_at", .text (stamp counter.finish))]

end UsageCounter

structure CreditUsage where
  used : Int
  dailyLimit : Int
  remaining : Int
  windowEndsAt : DateTime
  deriving DecidableEq

namespace CreditUsage

def ofValue : Value → Checked CreditUsage :=
  model fun row =>
    CreditUsage.mk <$> required "used_amount" integer row
      <*> required "daily_limit" integer row
      <*> required "remaining" integer row
      <*> required "window_ends_at" time row

def ofAmounts (used remaining : Amount) (dailyLimit : Int) (windowEndsAt : DateTime) :
    Checked CreditUsage :=
  (fun used remaining => ⟨used, dailyLimit, remaining, windowEndsAt⟩)
    <$> (integer used.toValue).within (.field "used_amount")
    <*> (integer remaining.toValue).within (.field "remaining")

def toValue (stamp : DateTime → String) (usage : CreditUsage) : Value :=
  .record [("used_amount", .int usage.used), ("daily_limit", .int usage.dailyLimit),
    ("remaining", .int usage.remaining), ("window_ends_at", .text (stamp usage.windowEndsAt))]

end CreditUsage

end PaidAccess
