import Mathlib.Tactic.Ring
import PaidAccess.Validation.Lenient
import PaidAccess.Proofs.Calendar.Order
/-!
Points in time that are written are read back. Both forms, that of reports and that of wire formats, are exact for times
whose offset is a whole number of minutes.
-/

namespace PaidAccess

theorem ofDigitChars_init (digits : List Char) (init : Nat) :
    Nat.ofDigitChars 10 digits init = init * 10 ^ digits.length + Nat.ofDigitChars 10 digits 0 := by
  induction digits generalizing init with
  | nil => simp
  | cons digit rest ih =>
    rw [Nat.ofDigitChars_cons, Nat.ofDigitChars_cons, ih, ih (10 * 0 + _), List.length_cons, Nat.pow_succ]
    ring

/-- Digits of a fixed number that stand for a number. -/
structure Digits (width n : Nat) (digits : List Char) : Prop where
  length : digits.length = width
  decimal : ∀ digit ∈ digits, digit.isDigit = true
  value : Nat.ofDigitChars 10 digits 0 = n

theorem padded_digits {width n : Nat} (fits : n < 10 ^ width) (positive : 0 < width) :
    Digits width n (padded width n).toList := by
  have shown : (padded width n).toList = List.replicate (width - (Nat.toDigits 10 n).length) '0' ++ Nat.toDigits 10 n := by
    have count : n.repr.length = (Nat.toDigits 10 n).length := by rw [← String.length_toList, Nat.toList_repr]
    simp [padded, count]
  have short : (Nat.toDigits 10 n).length ≤ width := (Nat.length_toDigits_le_iff (by decide) positive).mpr fits
  have zeros : ∀ count, Nat.ofDigitChars 10 (List.replicate count '0') 0 = 0 := by
    intro count
    induction count with
    | zero => rfl
    | succ count ih => exact ih
  rw [shown]
  constructor
  · rw [List.length_append, List.length_replicate]
    omega
  · intro digit listed
    rcases List.mem_append.mp listed with zero | given
    · rw [List.eq_of_mem_replicate zero]
      rfl
    · exact Nat.isDigit_of_mem_toDigits (by decide) (by decide) given
  · rw [Nat.ofDigitChars_append, zeros]
    exact Nat.ofDigitChars_toDigits (by decide) (by decide)

namespace Iso

theorem number?_digits {width n : Nat} {digits : List Char} (written : Digits width n digits) (rest : List Char) :
    number? width (digits ++ rest) = some (n, rest) := by
  obtain ⟨rfl, decimal, rfl⟩ := written
  induction digits with
  | nil => rfl
  | cons digit more ih =>
    obtain ⟨first, later⟩ := List.forall_mem_cons.mp decimal
    have high : digit? digit = some (digit.toNat - '0'.toNat) := if_pos first
    have value : Nat.ofDigitChars 10 (digit :: more) 0 =
        (digit.toNat - '0'.toNat) * Nat.pow 10 more.length + Nat.ofDigitChars 10 more 0 := by
      rw [Nat.ofDigitChars_cons, ofDigitChars_init, Nat.mul_zero, Nat.zero_add]
      rfl
    rw [value]
    simp [number?, high, ih later]

theorem number?_padded {width n : Nat} (fits : n < 10 ^ width) (positive : 0 < width) (rest : List Char) :
    number? width ((padded width n).toList ++ rest) = some (n, rest) :=
  number?_digits (padded_digits fits positive) rest

theorem micros_digits {n : Nat} {digits : List Char} (written : Digits 6 n digits) : micros digits = n := by
  obtain ⟨length, -, value⟩ := written
  unfold micros
  rw [List.take_of_length_le (Nat.le_of_eq length), length]
  exact (Nat.mul_one _).trans value

theorem takeWhile_digits {width n : Nat} {digits : List Char} (written : Digits width n digits) {rest : List Char}
    (ends : ∀ c ∈ rest.head?, c.isDigit = false) :
    (digits ++ rest).takeWhile Char.isDigit = digits ∧ (digits ++ rest).dropWhile Char.isDigit = rest := by
  rw [List.takeWhile_append_of_pos written.decimal, List.dropWhile_append_of_pos written.decimal]
  cases rest with
  | nil => simp
  | cons c more => simp [ends c rfl]

@[simp] theorem char?_self (c : Char) (rest : List Char) : char? c (c :: rest) = some rest := if_pos rfl

theorem dateNumbers?_iso (date : Date) (rest : List Char) :
    dateNumbers? (date.iso.toList ++ rest) = some ((date.year, date.month, date.day), rest) := by
  obtain ⟨year, month, day, yearPos, yearLe, monthPos, monthLe, dayPos, dayLe⟩ := date
  have longest : monthLength year month ≤ 31 := by
    unfold monthLength
    repeat' split <;> try omega
  have mark : "-".toList = ['-'] := rfl
  simp only [dateNumbers?, Date.iso, String.toList_append, List.append_assoc, mark, List.cons_append, List.nil_append]
  rw [number?_padded (by omega) (by decide)]
  simp only [Option.bind_eq_bind, Option.bind_some, char?_self]
  rw [number?_padded (by omega) (by decide)]
  simp only [Option.bind_some, char?_self]
  rw [number?_padded (by omega) (by decide)]
  simp only [Option.bind_some]
  exact if_pos ⟨monthPos, monthLe, dayPos, dayLe⟩

/-- What stands at the end of a text and is read as an offset. -/
structure Zone (text : List Char) (offset : Option Int) : Prop where
  read : offset? text = some offset
  ends : ∀ c ∈ text.head?, c.isDigit = false ∧ c ≠ '.' ∧ c ≠ ','

def fractionText (micros : Nat) : List Char := if micros = 0 then [] else '.' :: (padded 6 micros).toList

theorem seconds?_written {second micros : Nat} (fits : second < 100) (small : micros < microsPerSecond)
    {zone : List Char} {offset : Option Int} (closes : Zone zone offset) :
    seconds? (':' :: ((padded 2 second).toList ++ (fractionText micros ++ zone))) = some ((second, micros), zone) := by
  unfold seconds?
  simp only
  rw [number?_padded (by omega) (by decide)]
  simp only [Option.bind_eq_bind, Option.bind_some]
  by_cases whole : micros = 0
  · subst whole
    cases zone with
    | nil => rfl
    | cons mark rest =>
      obtain ⟨-, point, comma⟩ := closes.ends mark rfl
      simp [fractionText, point, comma]
  · have digits := padded_digits (show micros < 10 ^ 6 from small) (by decide)
    have ends : ∀ c ∈ zone.head?, c.isDigit = false := fun c first => (closes.ends c first).1
    obtain ⟨taken, dropped⟩ := takeWhile_digits digits ends
    have fraction : fractionText micros ++ zone = '.' :: ((padded 6 micros).toList ++ zone) := by
      simp [fractionText, whole]
    rw [fraction]
    simp only [true_or, ↓reduceIte, taken, dropped]
    cases shown : (padded 6 micros).toList with
    | nil =>
      have length := digits.length
      simp [shown] at length
    | cons first rest =>
      rw [← micros_digits digits, shown]

theorem reading?_written (t : DateTime) {zone : List Char} {offset : Option Int} (closes : Zone zone offset) :
    reading? ((t.date.iso ++ "T" ++ DateTime.clockText t.clock).toList ++ zone) =
      some ⟨t.date.year, t.date.month, t.date.day, t.clock, offset⟩ := by
  have bound := t.clock_lt
  simp only [microsPerDay] at bound
  have marks : "T".toList = ['T'] ∧ ":".toList = [':'] := ⟨rfl, rfl⟩
  have fraction : (if t.clock % microsPerSecond = 0 then "" else "." ++ padded 6 (t.clock % microsPerSecond)).toList =
      fractionText (t.clock % microsPerSecond) := by
    unfold fractionText
    split
    next => rfl
    next => exact String.toList_append
  simp only [reading?, DateTime.clockText, String.toList_append, List.append_assoc, marks, List.cons_append,
    List.nil_append, fraction]
  rw [dateNumbers?_iso]
  simp only [Option.bind_eq_bind, Option.bind_some, List.mem_cons, true_or, ↓reduceIte]
  rw [number?_padded (by simp only [microsPerSecond]; omega) (by decide)]
  simp only [Option.bind_some, char?_self]
  rw [number?_padded (by omega) (by decide)]
  simp only [Option.bind_some]
  rw [seconds?_written (by omega) (Nat.mod_lt _ (by decide)) closes]
  simp only [Option.bind_some, closes.read]
  have inMicros : microsPerSecond = 1000000 := rfl
  have within : t.clock / microsPerSecond / 3600 < 24 ∧ t.clock / microsPerSecond / 60 % 60 < 60 ∧
      t.clock / microsPerSecond % 60 < 60 := by
    rw [inMicros]
    omega
  have total : ((t.clock / microsPerSecond / 3600 * 60 + t.clock / microsPerSecond / 60 % 60) * 60 +
      t.clock / microsPerSecond % 60) * microsPerSecond + t.clock % microsPerSecond = t.clock := by
    rw [inMicros]
    omega
  exact (if_pos within).trans (by rw [total])

theorem zone_signed {mark : Char} {minutes : Nat} {ahead : Int} (bound : minutes < 24 * 60)
    (signed : mark = '+' ∧ ahead = minutes * 60 * microsPerSecond ∨
      mark = '-' ∧ ahead = -(minutes * 60 * microsPerSecond : Int)) :
    Zone (mark :: ((padded 2 (minutes / 60)).toList ++ ':' :: (padded 2 (minutes % 60)).toList)) (some ahead) := by
  have whole : ((minutes / 60 * 60 + minutes % 60 : Nat) : Int) = minutes := by omega
  have last := number?_padded (show minutes % 60 < 10 ^ 2 by omega) (by decide) []
  rw [List.append_nil] at last
  constructor
  · have sign : ¬(mark = 'Z' ∨ mark = 'z') ∧ (mark = '+' ∨ mark = '-' ∨ mark = '\u2212') := by
      rcases signed with ⟨rfl, -⟩ | ⟨rfl, -⟩ <;> decide
    simp only [offset?, sign, ↓reduceIte]
    rw [number?_padded (by omega) (by decide)]
    simp only [Option.bind_eq_bind, Option.bind_some, char?_self, Option.getD_some, last]
    rw [if_pos ⟨rfl, by omega, by omega⟩]
    push_cast at whole ⊢
    rw [whole]
    rcases signed with ⟨rfl, rfl⟩ | ⟨rfl, rfl⟩
    · rw [if_pos rfl]
    · rw [if_neg (by decide)]
  · rintro c first
    obtain rfl : mark = c := by simpa using first
    rcases signed with ⟨rfl, -⟩ | ⟨rfl, -⟩ <;> decide

end Iso

namespace Surrogate

def Unmarked (text : String) : Prop := mark ∉ text.toList

theorem Unmarked.isWhole {text : String} (unmarked : Unmarked text) : Surrogate.isWhole text = true := by
  have absent : text.contains mark = false := by simpa [Unmarked] using unmarked
  simp [Surrogate.isWhole, absent]

theorem Unmarked.append {first second : String} (left : Unmarked first) (right : Unmarked second) :
    Unmarked (first ++ second) := by
  unfold Unmarked
  rw [String.toList_append, List.mem_append, not_or]
  exact ⟨left, right⟩

end Surrogate

namespace DateTime

open Surrogate (Unmarked)

def ToTheMinute (t : DateTime) : Prop := ∃ minutes : Int, t.offset = some (minutes * (60 * microsPerSecond : Nat))

theorem ToTheMinute.zoned {t : DateTime} (exact : t.ToTheMinute) : t.Zoned :=
  exact.elim fun _ offset => ⟨_, offset⟩

theorem dayEnd_toTheMinute (date : Date) : (dayEnd date).ToTheMinute := ⟨0, rfl⟩

theorem zone_offsetMinutes {minutes : Int} (bound : minutes.natAbs < 24 * 60) :
    Iso.Zone (offsetMinutes (minutes * (60 * microsPerSecond : Nat))).toList
      (some (minutes * (60 * microsPerSecond : Nat))) := by
  have inMicros : microsPerSecond = 1000000 := rfl
  have size : (minutes * (60 * microsPerSecond : Nat)).natAbs / (60 * microsPerSecond) = minutes.natAbs := by
    rw [Int.natAbs_mul]
    exact Nat.mul_div_cancel _ (by decide)
  have marks : ":".toList = [':'] ∧ "-".toList = ['-'] ∧ "+".toList = ['+'] := ⟨rfl, rfl, rfl⟩
  unfold offsetMinutes
  simp only [size, String.toList_append, List.append_assoc, marks, List.cons_append, List.nil_append]
  split
  next behind =>
    have negative : minutes * (60 * microsPerSecond : Nat) = -(minutes.natAbs * 60 * microsPerSecond : Int) := by
      rw [inMicros] at behind ⊢
      omega
    rw [marks.2.1, List.singleton_append]
    exact Iso.zone_signed bound (.inr ⟨rfl, negative⟩)
  next ahead =>
    have positive : minutes * (60 * microsPerSecond : Nat) = minutes.natAbs * 60 * microsPerSecond := by
      rw [inMicros] at ahead ⊢
      omega
    rw [marks.2.2, List.singleton_append]
    exact Iso.zone_signed bound (.inl ⟨rfl, positive⟩)

theorem writtenTime_of_zone (t : DateTime) {zone : String} {ahead : Option Int} (offset : t.offset = ahead)
    (closes : Iso.Zone zone.toList ahead) :
    Lenient.writtenTime (t.date.iso ++ "T" ++ clockText t.clock ++ zone).toList = .valid t := by
  have known : Date.of? t.date.year t.date.month t.date.day = some t.date :=
    dif_pos ⟨t.date.year_pos, t.date.year_le, t.date.month_pos, t.date.month_le, t.date.day_pos, t.date.day_le⟩
  have fits : t.clock < microsPerDay ∧ ∀ other, ahead = some other → other.natAbs < microsPerDay :=
    ⟨t.clock_lt, offset ▸ t.offset_lt⟩
  rw [Lenient.writtenTime, String.toList_append, Iso.reading?_written t closes]
  simp only [Iso.Reading.dateTime?, known]
  rw [dif_pos fits]
  simp only [Lenient.dated, ← offset]

theorem unmarked_padded (width n : Nat) : Unmarked (padded width n) := by
  unfold Unmarked padded
  rw [String.toList_append, List.mem_append, not_or]
  constructor
  · intro listed
    rw [String.toList_ofList] at listed
    exact absurd (List.eq_of_mem_replicate listed) (by decide)
  · intro listed
    have digit : Surrogate.mark.isDigit = true := by
      rw [Nat.toString_eq_repr, Nat.toList_repr] at listed
      exact Nat.isDigit_of_mem_toDigits (by decide) (by decide) listed
    exact absurd digit (by decide)

theorem unmarked_date (date : Date) : Unmarked date.iso := by
  have dash : Unmarked "-" := by unfold Unmarked; decide
  exact ((((unmarked_padded _ _).append dash).append (unmarked_padded _ _)).append dash).append (unmarked_padded _ _)

theorem unmarked_clockText (clock : Nat) : Unmarked (clockText clock) := by
  have colon : Unmarked ":" := by unfold Unmarked; decide
  have fraction : Unmarked (if clock % microsPerSecond = 0 then "" else "." ++ padded 6 (clock % microsPerSecond)) := by
    split
    next => unfold Unmarked; decide
    next =>
      have point : Unmarked "." := by unfold Unmarked; decide
      exact point.append (unmarked_padded _ _)
  exact (((((unmarked_padded _ _).append colon).append (unmarked_padded _ _)).append colon).append
    (unmarked_padded _ _)).append fraction

theorem unmarked_offsetMinutes (ahead : Int) : Unmarked (offsetMinutes ahead) := by
  have colon : Unmarked ":" := by unfold Unmarked; decide
  have sign : Unmarked (if ahead < 0 then "-" else "+") := by
    split <;> (unfold Unmarked; decide)
  exact ((sign.append (unmarked_padded _ _)).append colon).append (unmarked_padded _ _)

theorem time_of_zone (t : DateTime) {zone : String} {ahead : Option Int} (offset : t.offset = ahead)
    (closes : Iso.Zone zone.toList ahead) (unmarked : Unmarked zone) :
    Lenient.time (.text (t.date.iso ++ "T" ++ clockText t.clock ++ zone)) = .valid t := by
  have letter : Unmarked "T" := by unfold Unmarked; decide
  have whole := ((((unmarked_date t.date).append letter).append (unmarked_clockText t.clock)).append unmarked).isWhole
  exact (if_pos whole).trans (writtenTime_of_zone t offset closes)

theorem ToTheMinute.exists_offset {t : DateTime} (exact : t.ToTheMinute) :
    ∃ minutes : Int, t.offset = some (minutes * (60 * microsPerSecond : Nat)) ∧ minutes.natAbs < 24 * 60 := by
  obtain ⟨minutes, offset⟩ := exact
  have bound := t.offset_lt _ offset
  have inMicros : microsPerSecond = 1000000 ∧ microsPerDay = 86400000000 := ⟨rfl, rfl⟩
  refine ⟨minutes, offset, ?_⟩
  rw [inMicros.1, inMicros.2] at bound
  omega

/-- A time whose offset is a whole number of minutes is read back as it was written in a report. -/
theorem ToTheMinute.time_iso {t : DateTime} (exact : t.ToTheMinute) : Lenient.time (.text t.iso) = .valid t := by
  obtain ⟨minutes, offset, bound⟩ := exact.exists_offset
  have inMicros : microsPerSecond = 1000000 := rfl
  have seconds : (minutes * (60 * microsPerSecond : Nat)).natAbs / microsPerSecond % 60 = 0 ∧
      (minutes * (60 * microsPerSecond : Nat)).natAbs % microsPerSecond = 0 := by
    rw [inMicros]
    omega
  have zone : offsetText (minutes * (60 * microsPerSecond : Nat)) = offsetMinutes (minutes * (60 * microsPerSecond : Nat)) := by
    unfold offsetText
    simp only [seconds, and_self, ↓reduceIte, String.append_empty]
  have written : t.iso =
      t.date.iso ++ "T" ++ clockText t.clock ++ offsetMinutes (minutes * (60 * microsPerSecond : Nat)) := by
    unfold iso
    rw [offset, Option.map_some, Option.getD_some, zone]
  rw [written]
  exact time_of_zone t offset (zone_offsetMinutes bound) (unmarked_offsetMinutes _)

theorem ToTheMinute.time_wire {t : DateTime} (exact : t.ToTheMinute) : Lenient.time (.text t.wire) = .valid t := by
  obtain ⟨minutes, offset, bound⟩ := exact.exists_offset
  have inMicros : microsPerSecond = 1000000 := rfl
  have nearest : nearestSecond (minutes * (60 * microsPerSecond : Nat)) = minutes * (60 * microsPerSecond : Nat) := by
    unfold nearestSecond
    rw [inMicros]
    dsimp only
    split <;> omega
  unfold wire
  simp only [offset, nearest]
  split
  next none =>
    have universal : Iso.Zone "Z".toList (some 0) := ⟨rfl, by rintro c first; cases first; decide⟩
    have letter : Unmarked "Z" := by unfold Unmarked; decide
    rw [none] at offset
    exact time_of_zone t offset universal letter
  next => exact time_of_zone t offset (zone_offsetMinutes bound) (unmarked_offsetMinutes _)

end DateTime

end PaidAccess
