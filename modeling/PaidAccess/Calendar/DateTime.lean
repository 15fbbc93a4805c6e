import PaidAccess.Calendar.Date
/-!
Points in time: a date, a time of day in microseconds and perhaps an offset from universal time.
Two zoned times are equal when they are the same instant, whatever their offsets; a time without a
zone equals only such a time, and the two kinds have no order between them.
-/

namespace PaidAccess

def microsPerSecond : Nat := 1000000

def microsPerDay : Nat := 86400000000

/-- A date and a time of day, with the microseconds that its zone is ahead of universal time. -/
structure DateTime where
  date : Date
  /-- Microseconds since midnight. -/
  clock : Nat
  offset : Option Int
  clock_lt : clock < microsPerDay
  offset_lt : ∀ ahead, offset = some ahead → ahead.natAbs < microsPerDay
  deriving DecidableEq

/-- What a point in time is equal by: an instant, or a wall clock reading without a zone. Both count
microseconds from the beginning of the calendar. -/
inductive Moment where
  | instant (micros : Int)
  | wall (micros : Int)
  deriving DecidableEq

namespace DateTime

def wallMicros (t : DateTime) : Int := (t.date.ordinal : Int) * microsPerDay + t.clock

def moment (t : DateTime) : Moment :=
  match t.offset with
  | some ahead => .instant (t.wallMicros - ahead)
  | none => .wall t.wallMicros

/-- The order of two points in time; a zoned one and one without a zone have none. -/
def compare? (a b : DateTime) : Option Ordering :=
  match a.moment, b.moment with
  | .instant x, .instant y => some (compare x y)
  | .wall x, .wall y => some (compare x y)
  | _, _ => none

def dayStart (date : Date) : DateTime :=
  ⟨date, 0, some 0, by decide, by intro _ h; cases h; decide⟩

def dayEnd (date : Date) : DateTime :=
  ⟨date, 86399999999, some 0, by decide, by intro _ h; cases h; decide⟩

def onDate (t : DateTime) (date : Date) : DateTime :=
  ⟨date, t.clock, t.offset, t.clock_lt, t.offset_lt⟩

def ofWallMicros? (micros : Int) (offset : Option Int) : Option DateTime :=
  match Date.ofOrdinal? (micros / microsPerDay) with
  | none => none
  | some date =>
      if h : (micros % microsPerDay).toNat < microsPerDay ∧
          ∀ ahead, offset = some ahead → ahead.natAbs < microsPerDay then
        some ⟨date, (micros % microsPerDay).toNat, offset, h.1, h.2⟩
      else none

def advance? (t : DateTime) (micros : Int) : Option DateTime :=
  ofWallMicros? (t.wallMicros + micros) t.offset

def of? (date : Date) (hour minute second micro : Nat) (offset : Option Int) : Option DateTime :=
  let clock := ((hour * 60 + minute) * 60 + second) * microsPerSecond + micro
  if h : clock < microsPerDay ∧ ∀ ahead, offset = some ahead → ahead.natAbs < microsPerDay then
    some ⟨date, clock, offset, h.1, h.2⟩
  else none

end DateTime

end PaidAccess
