import PaidAccess.Credits
import PaidAccess.Schedule.Hours
/-!
The daily job that opens the day's credit counters, at full hours of universal time. When it looks for
its next run during the first second of such an hour, it runs at once.
-/

namespace PaidAccess

def microsPerHour : Nat := 3600000000

structure DailyJob where
  hours : HourPattern
  deriving DecidableEq

namespace DailyJob

def id : String := "daily_ai_credit_reset"

def name : String := "Open today's AI credit counters"

def atHour (hour : Nat) : DailyJob := ⟨⟨[.single hour]⟩⟩

def work : Action Nat := Credits.resetDaily

def hourFrom (job : DailyJob) (hour : Int) : Int :=
  match job.hours.next? (hour % 24).toNat with
  | some next => hour - hour % 24 + next
  | none => hour - hour % 24 + 24 + (job.hours.next? 0).getD 0

def firstFrom (job : DailyJob) (instant : Int) : Int :=
  let hour := instant / microsPerHour
  if instant % microsPerHour < microsPerSecond ∧ job.hourFrom hour = hour then instant
  else job.hourFrom ((instant + microsPerHour - 1) / microsPerHour) * microsPerHour

def fullSecond (instant : Int) : Int := instant + -instant % microsPerSecond

/-- The instant from which on the first run is looked for: that of a point in time whose fraction of a
second is rounded up before its offset is taken off. It has to be in the calendar, and a time without a
zone has to be countable. -/
def searchStart (time : DateTime) : Outcome Int :=
  match time.advance? (-(time.clock : Int) % microsPerSecond) with
  | none => .error .overflow
  | some time =>
      match time.moment with
      | .wall micros => if time.isCountable then .ok micros else .error (DateTime.yearFailure 0)
      | .instant micros =>
          if (DateTime.ofWallMicros? micros (some 0)).isSome then .ok micros else .error .overflow

/-- The next runs, the first at or after an instant and each later than the one before. There is none past
the end of the calendar, and asking for one after that fails. -/
def firesFrom (job : DailyJob) : Nat → Int → Outcome (List (Option DateTime))
  | 0, _ => .ok []
  | count + 1, instant =>
      let next := job.firstFrom instant
      match DateTime.ofWallMicros? next (some 0) with
      | none => if count = 0 then .ok [none] else .error .noSuchMember
      | some time => do
          let later ← job.firesFrom count (fullSecond (next + 1))
          return some time :: later

/-- The next times at which the job runs, the first at or after a point in time. It never ran before
1970. -/
def fires (job : DailyJob) (now : DateTime) (count : Nat) : Outcome (List (Option DateTime)) := do
  if count = 0 then return []
  let start ← searchStart now
  job.firesFrom count (max start DateTime.epochMicros)

end DailyJob

end PaidAccess
