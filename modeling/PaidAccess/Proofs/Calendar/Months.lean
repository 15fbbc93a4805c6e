import PaidAccess.Calendar.Months
import PaidAccess.Proofs.Calendar.Epoch
/-!
Moving a time by months. Months are counted without gaps from the beginning of the calendar, so a later month is one
with a higher count, and moving there and on comes to the month that one move leads to. Only the day can be lost on the
way, when a month on the way is too short for it.
-/

namespace PaidAccess

/-- Gregorian leap years: every fourth year, but a century only if 400 divides it. -/
theorem monthLength_february (year : Nat) :
    monthLength year 2 = if 4 ∣ year ∧ (100 ∣ year → 400 ∣ year) then 29 else 28 := by
  have leap : isLeapYear year = true ↔ 4 ∣ year ∧ (100 ∣ year → 400 ∣ year) := by
    unfold isLeapYear
    simp only [Bool.and_eq_true, Bool.or_eq_true, beq_iff_eq, bne_iff_ne, Nat.dvd_iff_mod_eq_zero]
    omega
  simp only [monthLength, leap]

theorem le_monthLength (year month : Nat) : 28 ≤ monthLength year month := by
  unfold monthLength
  repeat' split <;> try omega

namespace Date

def months (date : Date) : Nat := date.year * 12 + date.month

def daysBefore (months : Nat) : Nat :=
  daysOfYears ((months - 1) / 12 - 1) + daysBeforeMonth ((months - 1) / 12) ((months - 1) % 12 + 1)

theorem year_of_months (date : Date) : (date.months - 1) / 12 = date.year := by
  have first := date.month_pos
  have last := date.month_le
  unfold months
  omega

theorem month_of_months (date : Date) : (date.months - 1) % 12 + 1 = date.month := by
  have first := date.month_pos
  have last := date.month_le
  unfold months
  omega

theorem ordinal_eq (date : Date) : date.ordinal = daysBefore date.months + date.day := by
  unfold ordinal daysBefore
  rw [year_of_months, month_of_months]

theorem daysBefore_succ {months : Nat} (inCalendar : 13 ≤ months) :
    daysBefore (months + 1) = daysBefore months + monthLength ((months - 1) / 12) ((months - 1) % 12 + 1) := by
  unfold daysBefore
  by_cases last : (months - 1) % 12 = 11
  · -- the next month is the first of the next year
    have year : (months + 1 - 1) / 12 = (months - 1) / 12 + 1 := by omega
    have month : (months + 1 - 1) % 12 = 0 := by omega
    have counted := daysOfYears_succ ((months - 1) / 12 - 1)
    have begun : (months - 1) / 12 - 1 + 1 = (months - 1) / 12 := by omega
    have length := daysBeforeMonth_thirteen ((months - 1) / 12)
    rw [daysBeforeMonth_succ] at length
    have january : daysBeforeMonth ((months - 1) / 12 + 1) 1 = 0 := rfl
    rw [begun] at counted
    rw [year, month, last, january, Nat.add_sub_cancel, counted]
    omega
  · have year : (months + 1 - 1) / 12 = (months - 1) / 12 := by omega
    have month : (months + 1 - 1) % 12 = (months - 1) % 12 + 1 := by omega
    rw [year, month, daysBeforeMonth_succ, Nat.add_assoc]

theorem daysBefore_le {first second : Nat} (inCalendar : 13 ≤ first) (later : first < second) :
    daysBefore first + monthLength ((first - 1) / 12) ((first - 1) % 12 + 1) ≤ daysBefore second := by
  induction later with
  | refl => exact Nat.le_of_eq (daysBefore_succ inCalendar).symm
  | step later ih =>
    have first := Nat.lt_of_lt_of_le (Nat.lt_succ_self first) later
    rw [daysBefore_succ (by omega)]
    omega

theorem ordinal_lt_of_months {first second : Date} (later : first.months < second.months) :
    first.ordinal < second.ordinal := by
  have inCalendar : 13 ≤ first.months := by
    have year := first.year_pos
    have month := first.month_pos
    unfold months
    omega
  have begins := daysBefore_le inCalendar later
  rw [year_of_months, month_of_months] at begins
  have ends := first.day_le
  have starts := second.day_pos
  rw [ordinal_eq, ordinal_eq]
  omega

theorem ext_of_months {first second : Date} (same : first.months = second.months) (day : first.day = second.day) :
    first = second := by
  have year : first.year = second.year := by rw [← year_of_months, same, year_of_months]
  have month : first.month = second.month := by rw [← month_of_months, same, month_of_months]
  cases first
  cases second
  simp_all

end Date

namespace DateTime

theorem before_of_ordinal {first second : DateTime} (zone : second.offset = first.offset)
    (earlier : first.date.ordinal < second.date.ordinal) : first.before second = .ok true := by
  have within : first.clock < microsPerDay := first.clock_lt
  have wall : first.wallMicros < second.wallMicros := by
    unfold wallMicros
    have gap : (first.date.ordinal + 1 : Int) * microsPerDay ≤ second.date.ordinal * microsPerDay :=
      Int.mul_le_mul_of_nonneg_right (by omega) (by omega)
    rw [Int.add_mul] at gap
    omega
  unfold before compare? moment
  rw [zone]
  cases first.offset with
  | none => simp [Int.compare_eq_lt.mpr wall]
  | some ahead =>
    have instant : first.wallMicros - ahead < second.wallMicros - ahead := by omega
    simp [Int.compare_eq_lt.mpr instant]

def yearAfter (t : DateTime) (months : Int) : Int := (t.date.months + months - 1) / 12

/-- A time some months later or earlier than another: it is in the month that is so many months away, on the same day or
on the last one that the month has, at the same time of day in the same zone. -/
structure MonthsFrom (t : DateTime) (months : Int) (moved : DateTime) : Prop where
  months : (moved.date.months : Int) = t.date.months + months
  day : moved.date.day = min t.date.day (monthLength moved.date.year moved.date.month)
  clock : moved.clock = t.clock
  offset : moved.offset = t.offset

namespace MonthsFrom

variable {t moved middle last : DateTime} {months more : Int}

theorem unique (first : MonthsFrom t months moved) (second : MonthsFrom t months last) : last = moved := by
  have counts : last.date.months = moved.date.months := by
    have here := first.months
    have there := second.months
    omega
  have year : last.date.year = moved.date.year := by rw [← Date.year_of_months, counts, Date.year_of_months]
  have month : last.date.month = moved.date.month := by rw [← Date.month_of_months, counts, Date.month_of_months]
  have date : last.date = moved.date :=
    Date.ext_of_months counts (by rw [first.day, second.day, year, month])
  have clock : last.clock = moved.clock := second.clock.trans first.clock.symm
  have offset : last.offset = moved.offset := second.offset.trans first.offset.symm
  cases last
  cases moved
  simp_all

theorem before (moves : MonthsFrom t months moved) (forward : 1 ≤ months) : t.before moved = .ok true := by
  apply before_of_ordinal moves.offset
  apply Date.ordinal_lt_of_months
  have counts := moves.months
  omega

theorem after (moves : MonthsFrom t months moved) (backward : months ≤ -1) : moved.before t = .ok true := by
  apply before_of_ordinal moves.offset.symm
  apply Date.ordinal_lt_of_months
  have counts := moves.months
  omega

/-- A month that is reached in two steps is reached in one. The day is lost only where the month between is too short
for it. -/
theorem trans (first : MonthsFrom t months middle) (second : MonthsFrom middle more last)
    (direct : MonthsFrom t (months + more) moved) :
    last.date.year = moved.date.year ∧ last.date.month = moved.date.month ∧ last.date.day ≤ moved.date.day ∧
      (t.date.day ≤ 28 → last = moved) := by
  have counts : last.date.months = moved.date.months := by
    have there := first.months
    have onward := second.months
    have here := direct.months
    omega
  have year : last.date.year = moved.date.year := by rw [← Date.year_of_months, counts, Date.year_of_months]
  have month : last.date.month = moved.date.month := by rw [← Date.month_of_months, counts, Date.month_of_months]
  have between := first.day
  have reached := second.day
  rw [year, month] at reached
  refine ⟨year, month, ?_, fun early => direct.unique ⟨?_, ?_, ?_, ?_⟩⟩
  · rw [direct.day, reached]
    omega
  · rw [counts, direct.months]
  · have long := le_monthLength middle.date.year middle.date.month
    rw [year, month, reached]
    omega
  · exact second.clock.trans first.clock
  · exact second.offset.trans first.offset

end MonthsFrom

theorem addMonths_cases (t : DateTime) (months : Int) :
    (1 ≤ t.yearAfter months ∧ t.yearAfter months ≤ 9999 ∧
        ∃ moved, t.addMonths months = .ok moved ∧ MonthsFrom t months moved) ∨
      (¬(1 ≤ t.yearAfter months ∧ t.yearAfter months ≤ 9999) ∧
        t.addMonths months = .error (yearFailure (t.yearAfter months))) := by
  have year : (t.date.year : Int) + ((t.date.month : Int) - 1 + months) / 12 = t.yearAfter months := by
    unfold yearAfter Date.months
    omega
  unfold addMonths
  dsimp only
  rw [year]
  by_cases within : 1 ≤ t.yearAfter months ∧ t.yearAfter months ≤ 9999
  · refine .inl ⟨within.1, within.2, ?_⟩
    rw [if_pos within]
    generalize number : (((t.date.month : Int) - 1 + months) % 12).toNat + 1 = month
    have long := le_monthLength (t.yearAfter months).toNat month
    have day := t.date.day_pos
    have known : Date.of? (t.yearAfter months).toNat month
        (min t.date.day (monthLength (t.yearAfter months).toNat month)) = some _ :=
      dif_pos ⟨by omega, by omega, by omega, by omega, by omega, Nat.min_le_right _ _⟩
    rw [known]
    refine ⟨_, rfl, ?_, rfl, rfl, rfl⟩
    change ((t.yearAfter months).toNat * 12 + month : Nat) = (t.date.months : Int) + months
    unfold yearAfter Date.months at *
    omega
  · exact .inr ⟨within, if_neg within⟩

/-- Months are added exactly when the year that they lead to is in the calendar; any other year is named in the failure,
or overflows. The time is moved to the month that is so many months away and keeps its day, or as much of it as the month
has: a later time for any months ahead, an earlier one for any months back. Two moves reach the month of one move by
both, on a day that is not later, and on the same day if it is one that every month has. -/
theorem addMonths_exact (t : DateTime) (months more : Int) :
    ((∃ failure, t.addMonths months = .error failure) ↔
      ¬(1 ≤ t.yearAfter months ∧ t.yearAfter months ≤ 9999)) ∧
    (∀ failure, t.addMonths months = .error failure → failure = yearFailure (t.yearAfter months)) ∧
    (∀ moved, t.addMonths months = .ok moved → MonthsFrom t months moved ∧
      (moved.date.month = 2 → moved.date.day = min t.date.day
        (if 4 ∣ moved.date.year ∧ (100 ∣ moved.date.year → 400 ∣ moved.date.year) then 29 else 28)) ∧
      (1 ≤ months → t.before moved = .ok true) ∧ (months ≤ -1 → moved.before t = .ok true)) ∧
    ∀ middle last, t.addMonths months = .ok middle → middle.addMonths more = .ok last →
      ∃ moved, t.addMonths (months + more) = .ok moved ∧ last.date.year = moved.date.year ∧
        last.date.month = moved.date.month ∧ last.date.day ≤ moved.date.day ∧ (t.date.day ≤ 28 → last = moved) := by
  have reaches : ∀ {t moved : DateTime} {months : Int}, t.addMonths months = .ok moved → MonthsFrom t months moved := by
    intro t moved months done
    rcases t.addMonths_cases months with ⟨-, -, other, reached, moves⟩ | ⟨-, fails⟩
    · cases done.symm.trans reached
      exact moves
    · cases done.symm.trans fails
  refine ⟨?_, ?_, ?_, ?_⟩
  · rcases t.addMonths_cases months with ⟨first, last, moved, done, -⟩ | ⟨outside, fails⟩
    · exact ⟨fun ⟨_, fails⟩ => (nomatch done.symm.trans fails), fun outside => absurd ⟨first, last⟩ outside⟩
    · exact ⟨fun _ => outside, fun _ => ⟨_, fails⟩⟩
  · intro failure failing
    rcases t.addMonths_cases months with ⟨-, -, moved, done, -⟩ | ⟨-, fails⟩
    · cases done.symm.trans failing
    · exact Except.error.inj (failing.symm.trans fails)
  · intro moved done
    have moves := reaches done
    refine ⟨moves, fun february => ?_, moves.before, moves.after⟩
    rw [moves.day, february, monthLength_february]
  · intro middle last first second
    have step := reaches first
    have onward := reaches second
    have inCalendar := last.date.year_pos
    have inCalendarToo := last.date.year_le
    have counts : t.yearAfter (months + more) = last.date.year := by
      have there := step.months
      have here := onward.months
      have year := Date.year_of_months last.date
      unfold yearAfter
      omega
    rcases t.addMonths_cases (months + more) with ⟨-, -, moved, done, direct⟩ | ⟨outside, -⟩
    · exact ⟨moved, done, step.trans onward direct⟩
    · omega

def leapJanuary : DateTime :=
  ⟨⟨2024, 1, 31, by decide, by decide, by decide, by decide, by decide, by decide⟩, 86399000000, some (-12600000000),
    by decide, by intro _ h; cases h; decide⟩

theorem addMonths_exact_through_february :
    ∃ february march direct, leapJanuary.addMonths 1 = .ok february ∧ february.addMonths 1 = .ok march ∧
      leapJanuary.addMonths 2 = .ok direct ∧ leapJanuary.before february = .ok true ∧ february.date.day = 29 ∧
      march.date.day = 29 ∧ direct.date.day = 31 ∧ march.date.month = direct.date.month := by
  obtain ⟨february, first, leap⟩ : ∃ february, leapJanuary.addMonths 1 = .ok february ∧ february.date.day = 29 :=
    ⟨_, rfl, rfl⟩
  obtain ⟨march, second, short⟩ : ∃ march, february.addMonths 1 = .ok march ∧ march.date.day = 29 := by
    cases first
    exact ⟨_, rfl, rfl⟩
  obtain ⟨-, -, moves, onward⟩ := addMonths_exact leapJanuary 1 1
  obtain ⟨-, -, later, -⟩ := moves february first
  obtain ⟨direct, done, -, month, -⟩ := onward february march first second
  have long : direct.date.day = 31 := by
    cases done
    rfl
  exact ⟨february, march, direct, first, second, done, later (by decide), leap, short, long, month⟩

end DateTime

end PaidAccess
