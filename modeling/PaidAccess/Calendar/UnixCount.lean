import PaidAccess.Calendar.Epoch
import PaidAccess.Validation.Numeral
/-!
Points in time given as a count since 1970. Small counts are of seconds. A count beyond twenty thousand
million is of milliseconds, as it would lie centuries ahead otherwise.
-/

namespace PaidAccess.UnixCount

def watershed : Nat := 20000000000

def unitMicros (isLarge : Bool) : Nat := if isLarge then 1000 else microsPerSecond

/-- The point in time of a count of microseconds. The year zero is read but holds no date; any other year
outside the calendar is not read. -/
def ofMicros? (micros : Int) : Option (Option DateTime) :=
  let seconds := micros / microsPerSecond
  if seconds < -62167219200 ∨ 253402300799 < seconds then none else some (DateTime.ofEpoch? micros)

def ofInt? (count : Int) : Option (Option DateTime) :=
  ofMicros? (count * unitMicros (watershed < count.natAbs))

/-- The point in time of a floating point count. What lies above the integer below is scaled and rounded
to microseconds, a half upward. -/
def ofReal? : Binary64 → Option (Option DateTime)
  | .finite negative significand exponent =>
      let value := Binary64.fraction significand exponent
      let exact := Binary64.signed negative value.1
      let above := Binary64.ofFraction false (exact % value.2).toNat value.2
      let unit := unitMicros (watershed * value.2 < value.1)
      ofMicros? (exact / value.2 * unit + ((above.scaleBy unit).roundUp?).getD 0)
  | _ => none

/-- The point in time of a count written as a text, perhaps with a sign. Without a point it is an integer,
with one it may have an exponent. -/
def ofText? (text : List Char) : Option (Option DateTime) :=
  let signed := Numeral.splitSign text
  let whole := signed.2.takeWhile Char.isDigit
  match whole, signed.2.dropWhile Char.isDigit with
  | _, '.' :: _ => (Numeral.plainReal? text).bind ofReal?
  | _ :: _, [] => ofInt? (Binary64.signed signed.1 (Numeral.decimal whole))
  | _, _ => none

end PaidAccess.UnixCount
