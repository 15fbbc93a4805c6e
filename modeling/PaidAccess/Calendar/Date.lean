/-!
Calendar dates under the Gregorian leap rules, for the years 1 to 9999.
-/

namespace PaidAccess

def isLeapYear (year : Nat) : Bool :=
  year % 4 == 0 && (year % 100 != 0 || year % 400 == 0)

def monthLength (year month : Nat) : Nat :=
  match month with
  | 2 => if isLeapYear year then 29 else 28
  | 4 | 6 | 9 | 11 => 30
  | _ => 31

structure Date where
  year : Nat
  month : Nat
  day : Nat
  year_pos : 1 ≤ year
  year_le : year ≤ 9999
  month_pos : 1 ≤ month
  month_le : month ≤ 12
  day_pos : 1 ≤ day
  day_le : day ≤ monthLength year month
  deriving DecidableEq

namespace Date

def of? (year month day : Nat) : Option Date :=
  if h : 1 ≤ year ∧ year ≤ 9999 ∧ 1 ≤ month ∧ month ≤ 12 ∧ 1 ≤ day ∧ day ≤ monthLength year month then
    some ⟨year, month, day, h.1, h.2.1, h.2.2.1, h.2.2.2.1, h.2.2.2.2.1, h.2.2.2.2.2⟩
  else none

def daysOfYears (years : Nat) : Nat := years * 365 + years / 4 - years / 100 + years / 400

def daysBeforeMonth (year month : Nat) : Nat :=
  (List.range (month - 1)).foldl (fun days earlier => days + monthLength year (earlier + 1)) 0

/-- The number of a day, counted from one at the beginning of the year 1. -/
def ordinal (date : Date) : Nat :=
  daysOfYears (date.year - 1) + daysBeforeMonth date.year date.month + date.day

def daysOfCycle : Nat := 146097

/-- The year of a numbered day and the days of that year before it. Days before the year 1 have years
below one. Within four centuries a division by 366 misses the year by one at most. -/
def yearOfOrdinal (ordinal : Int) : Int × Nat :=
  let cycle := (ordinal - 1) / daysOfCycle
  let rest := ((ordinal - 1) % daysOfCycle).toNat
  let guess := rest / 366
  let years := if daysOfYears (guess + 1) ≤ rest then guess + 1 else guess
  (cycle * 400 + years + 1, rest - daysOfYears years)

def ofOrdinal? (ordinal : Int) : Option Date :=
  let found := yearOfOrdinal ordinal
  if found.1 < 1 ∨ 9999 < found.1 then none
  else
    let year := found.1.toNat
    let month := ((List.range 12).reverse.map (· + 1)).find? (daysBeforeMonth year · ≤ found.2)
    month.bind fun month => of? year month (found.2 - daysBeforeMonth year month + 1)

end Date

end PaidAccess
