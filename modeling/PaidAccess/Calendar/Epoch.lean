import PaidAccess.Calendar.DateTime
import PaidAccess.Number.Binary64
/-!
Points in time counted from the beginning of 1970 in universal time.
-/

namespace PaidAccess

namespace DateTime

def epochOrdinal : Int := 719163

def epochMicros : Int := epochOrdinal * microsPerDay

def ofEpoch? (micros : Int) : Option DateTime := ofWallMicros? (micros + epochMicros) (some 0)

def epochYear (seconds : Int) : Int := (Date.yearOfOrdinal (seconds / 86400 + epochOrdinal)).1

/-- The seconds since 1970 as a floating point number. A time without a zone is read as universal
time, and its seconds and fraction are rounded one after the other. -/
def epochSeconds (t : DateTime) : Binary64 :=
  match t.moment with
  | .instant micros =>
      let since := micros - epochMicros
      .ofFraction (since < 0) since.natAbs microsPerSecond
  | .wall micros =>
      let since := micros - epochMicros
      let seconds := since / microsPerSecond
      match Binary64.ofFraction false (since % microsPerSecond).toNat microsPerSecond with
      | .finite _ significand exponent =>
          let part := Binary64.fraction significand exponent
          let total := seconds * part.2 + part.1
          .ofFraction (total < 0) total.natAbs part.2
      | other => other

/-- Whether a time can be counted from 1970. A time without a zone can if the day before is in the calendar
too, since a clock that was set back may have shown that day's date. -/
def isCountable (t : DateTime) : Bool :=
  match t.moment with
  | .instant _ => true
  | .wall micros => 2 * (microsPerDay : Int) ≤ micros

/-- The whole milliseconds since 1970, toward zero, as computed from the seconds, of a time that can be
counted. -/
def epochMillis? (t : DateTime) : Option Int :=
  if t.isCountable then (t.epochSeconds.scaleBy 1000).truncate? else none

end DateTime

end PaidAccess
