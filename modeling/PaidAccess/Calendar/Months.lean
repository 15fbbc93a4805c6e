import PaidAccess.Failure
/-!
Calendar month arithmetic. The day is kept where the month has it and otherwise moved back to the
month's last day, so a month after 31 January is 28 or 29 February.
-/

namespace PaidAccess.DateTime

def addMonths (t : DateTime) (months : Int) : Outcome DateTime :=
  let index : Int := (t.date.month : Int) - 1 + months
  let year : Int := t.date.year + index / 12
  let month := (index % 12).toNat + 1
  if 1 ≤ year ∧ year ≤ 9999 then
    match Date.of? year.toNat month (min t.date.day (monthLength year.toNat month)) with
    | some date => .ok (t.onDate date)
    | none => .error (yearFailure year)
  else .error (yearFailure year)

end PaidAccess.DateTime
