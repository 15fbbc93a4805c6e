import PaidAccess.Provider.Payload
import PaidAccess.Proofs.Calendar.Order
/-!
Counts of seconds that the calendar has a time for: those from the first second of the year 1 to the last
of the year 9999.
-/

namespace PaidAccess

namespace Date

/-- How the year of a numbered day is found: it begins on that day or before, and the next year begins
after it. -/
theorem yearOfOrdinal_spec (ordinal : Int) :
    ∃ cycle : Int, ∃ years rest : Nat,
      yearOfOrdinal ordinal = (cycle * 400 + years + 1, rest - daysOfYears years) ∧
      ordinal = cycle * 146097 + rest + 1 ∧ years < 400 ∧ rest < 146097 ∧
      daysOfYears years ≤ rest ∧ rest < daysOfYears (years + 1) := by
  have bounded : ((ordinal - 1) % (daysOfCycle : Int)).toNat < 146097 := by
    unfold daysOfCycle
    omega
  refine ⟨(ordinal - 1) / daysOfCycle, _, ((ordinal - 1) % daysOfCycle).toNat, rfl, ?_, ?_, bounded, ?_, ?_⟩
  · unfold daysOfCycle
    omega
  all_goals
    generalize ((ordinal - 1) % (daysOfCycle : Int)).toNat = rest at bounded
    split <;> unfold daysOfYears at * <;> omega

theorem daysBeforeMonth_succ (year month : Nat) :
    daysBeforeMonth year (month + 2) = daysBeforeMonth year (month + 1) + monthLength year (month + 1) := by
  simp [daysBeforeMonth, List.range_succ]

theorem daysBeforeMonth_thirteen (year : Nat) :
    daysBeforeMonth year 13 = if isLeapYear year then 366 else 365 := by
  cases leap : isLeapYear year <;> simp [daysBeforeMonth, List.range_succ, monthLength, leap]

theorem exists_month (year days months : Nat) :
    ∃ month, ((List.range (months + 1)).reverse.map (· + 1)).find? (daysBeforeMonth year · ≤ days) = some (month + 1) ∧
      month ≤ months ∧ daysBeforeMonth year (month + 1) ≤ days ∧
      (month = months ∨ days < daysBeforeMonth year (month + 2)) := by
  induction months with
  | zero => exact ⟨0, by simp [daysBeforeMonth], Nat.le_refl 0, by simp [daysBeforeMonth], .inl rfl⟩
  | succ months ih =>
    rw [List.range_succ, List.reverse_append, List.reverse_singleton, List.singleton_append, List.map_cons,
      List.find?_cons]
    by_cases begun : daysBeforeMonth year (months + 2) ≤ days
    · exact ⟨months + 1, by simp only [begun, decide_true], Nat.le_refl _, begun, .inl rfl⟩
    · obtain ⟨month, found, within, started, next⟩ := ih
      refine ⟨month, ?_, by omega, started, ?_⟩
      · simp only [begun, decide_false]
        exact found
      · rcases next with rfl | later
        · exact .inr (by omega)
        · exact .inr later

theorem daysOfYears_succ (years : Nat) :
    daysOfYears (years + 1) = daysOfYears years + if isLeapYear (years + 1) then 366 else 365 := by
  have centuries : years / 100 ≤ years * 365 := by omega
  unfold daysOfYears isLeapYear
  simp only [Nat.succ_div, Nat.dvd_iff_mod_eq_zero]
  generalize years / 4 = fours at *
  generalize years / 100 = hundreds at *
  generalize years / 400 = cycles at *
  by_cases fourth : (years + 1) % 4 = 0
  · by_cases hundredth : (years + 1) % 100 = 0
    · by_cases last : (years + 1) % 400 = 0 <;> simp [fourth, hundredth, last] <;> omega
    · have regular : (years + 1) % 400 ≠ 0 := by omega
      simp [fourth, hundredth, regular]
      omega
  · have hundredth : (years + 1) % 100 ≠ 0 := by omega
    have last : (years + 1) % 400 ≠ 0 := by omega
    simp [fourth, hundredth, last]
    omega

theorem isLeapYear_of_cycle (cycle years : Nat) : isLeapYear (cycle * 400 + years) = isLeapYear years := by
  have fourth : (cycle * 400 + years) % 4 = years % 4 := by omega
  have hundredth : (cycle * 400 + years) % 100 = years % 100 := by omega
  have last : (cycle * 400 + years) % 400 = years % 400 := by omega
  unfold isLeapYear
  rw [fourth, hundredth, last]

/-- Every day of the years 1 to 9999 is a day of the calendar. -/
theorem exists_ofOrdinal? {ordinal : Int} (first : 1 ≤ ordinal) (last : ordinal ≤ 3652059) :
    ∃ date, ofOrdinal? ordinal = some date := by
  obtain ⟨cycle, years, rest, found, counted, short, bounded, begun, next⟩ := yearOfOrdinal_spec ordinal
  have century : 0 ≤ cycle := by omega
  obtain ⟨cycle, rfl⟩ := Int.eq_ofNat_of_zero_le century
  have known : cycle * 400 + years + 1 ≤ 9999 := by
    unfold daysOfYears at begun
    omega
  have length : daysBeforeMonth (cycle * 400 + years + 1) 13 + daysOfYears years = daysOfYears (years + 1) := by
    rw [daysBeforeMonth_thirteen, Nat.add_assoc, isLeapYear_of_cycle, daysOfYears_succ, Nat.add_comm]
  have year : ((cycle : Int) * 400 + years + 1).toNat = cycle * 400 + years + 1 := by omega
  obtain ⟨month, search, within, started, later⟩ :=
    exists_month (cycle * 400 + years + 1) (rest - daysOfYears years) 11
  have ends : rest - daysOfYears years < daysBeforeMonth (cycle * 400 + years + 1) (month + 2) := by
    rcases later with rfl | later
    · change _ < daysBeforeMonth _ 13
      omega
    · exact later
  rw [daysBeforeMonth_succ] at ends
  unfold ofOrdinal?
  rw [found]
  dsimp only
  rw [if_neg (by omega), year, search, Option.bind_some]
  exact ⟨_, dif_pos ⟨by omega, known, by omega, by omega, by omega, by omega⟩⟩

theorem year_of_ofOrdinal? {ordinal : Int} {date : Date} (found : ofOrdinal? ordinal = some date) :
    1 ≤ (yearOfOrdinal ordinal).1 ∧ (yearOfOrdinal ordinal).1 ≤ 9999 := by
  unfold ofOrdinal? at found
  dsimp only at found
  split at found
  next => cases found
  next within => omega

end Date

namespace DateTime

theorem universal_of_ofEpoch? {micros : Int} {t : DateTime} (counted : ofEpoch? micros = some t) : t.Universal := by
  unfold ofEpoch? ofWallMicros? at counted
  split at counted
  next => cases counted
  next =>
    split at counted
    next =>
      cases counted
      rfl
    next => cases counted

def Countable (seconds : Int) : Prop := -62135596800 ≤ seconds ∧ seconds ≤ 253402300799

instance (seconds : Int) : Decidable (Countable seconds) := inferInstanceAs (Decidable (_ ∧ _))

def ofSeconds? (seconds : Int) : Option DateTime := ofEpoch? (seconds * microsPerSecond)

theorem exists_day {seconds : Int} (countable : Countable seconds) :
    ∃ date, Date.ofOrdinal? (seconds / 86400 + epochOrdinal) = some date := by
  unfold Countable at countable
  apply Date.exists_ofOrdinal? <;> unfold epochOrdinal <;> omega

theorem exists_ofSeconds? {seconds : Int} (countable : Countable seconds) :
    ∃ time, ofSeconds? seconds = some time := by
  obtain ⟨date, day⟩ := exists_day countable
  have number : (seconds * microsPerSecond + epochMicros) / microsPerDay = seconds / 86400 + epochOrdinal := by
    unfold epochMicros epochOrdinal microsPerSecond microsPerDay
    omega
  unfold ofSeconds? ofEpoch? ofWallMicros?
  rw [number, day]
  refine ⟨_, dif_pos ⟨?_, ?_⟩⟩
  · unfold microsPerDay
    omega
  · rintro ahead ⟨⟩
    decide

end DateTime

theorem Payload.timeOfMicros_of_countable {seconds : Int} (countable : DateTime.Countable seconds) :
    ∃ time, DateTime.ofSeconds? seconds = some time ∧ timeOfMicros (seconds * microsPerSecond) = .ok time := by
  obtain ⟨time, counted⟩ := DateTime.exists_ofSeconds? countable
  obtain ⟨date, day⟩ := DateTime.exists_day countable
  have year := Date.year_of_ofOrdinal? day
  have whole : seconds * microsPerSecond / microsPerSecond = seconds := by
    unfold microsPerSecond
    omega
  have read : DateTime.ofEpoch? (seconds * microsPerSecond) = some time := counted
  unfold DateTime.Countable at countable
  have long : Int.pow 2 63 = 9223372036854775808 := rfl
  have short : Int.pow 2 31 = 2147483648 := rfl
  refine ⟨time, counted, ?_⟩
  unfold timeOfMicros DateTime.epochYear
  dsimp only
  rw [whole, read, long, short, if_pos (by omega), if_neg (by omega)]

end PaidAccess
