import PaidAccess.Proofs.Calendar.Epoch
import PaidAccess.Proofs.Calendar.Iso
/-!
The points in time that a text can express: those without a zone and those whose offset is a whole number of minutes.
They are read back from both written forms, and nothing else is ever read from a value.
-/

namespace PaidAccess

def InMinutes (offset : Option Int) : Prop :=
  offset = none ∨ ∃ minutes : Int, offset = some (minutes * (60 * microsPerSecond : Nat))

namespace DateTime

/-- Whether a time has no zone or an offset of a whole number of minutes. -/
def Expressible (t : DateTime) : Prop := InMinutes t.offset

theorem ToTheMinute.expressible {t : DateTime} (exact : t.ToTheMinute) : t.Expressible := .inr exact

theorem dayEnd_expressible (date : Date) : (dayEnd date).Expressible := (dayEnd_toTheMinute date).expressible

theorem time_of_naive {t : DateTime} (naive : t.offset = none) :
    Lenient.time (.text (t.date.iso ++ "T" ++ clockText t.clock ++ "")) = .valid t := by
  have nothing : Iso.Zone "".toList none := ⟨rfl, nofun⟩
  have unmarked : Surrogate.Unmarked "" := by unfold Surrogate.Unmarked; decide
  exact time_of_zone t naive nothing unmarked

theorem Expressible.time_iso {t : DateTime} (expressible : t.Expressible) : Lenient.time (.text t.iso) = .valid t := by
  rcases expressible with naive | exact
  · have read := time_of_naive naive
    unfold iso
    rw [naive]
    exact read
  · exact ToTheMinute.time_iso exact

theorem Expressible.time_wire {t : DateTime} (expressible : t.Expressible) : Lenient.time (.text t.wire) = .valid t := by
  rcases expressible with naive | exact
  · have read := time_of_naive naive
    unfold wire
    rw [naive]
    exact read
  · exact ToTheMinute.time_wire exact

end DateTime

namespace Iso

theorem inMinutes_of_offset? {text : List Char} {offset : Option Int} (read : offset? text = some offset) :
    InMinutes offset := by
  unfold offset? at read
  split at read
  next =>
    cases read
    exact .inl rfl
  next mark rest =>
    split at read
    next =>
      split at read
      next =>
        cases read
        exact .inr ⟨0, by simp⟩
      next => cases read
    next =>
      split at read
      next =>
        simp only [Option.bind_eq_bind, Option.bind_eq_some_iff] at read
        obtain ⟨⟨hours, _⟩, -, ⟨minutes, _⟩, -, read⟩ := read
        split at read
        next =>
          cases read
          right
          split
          next => exact ⟨hours * 60 + minutes, by push_cast; ring_nf⟩
          next => exact ⟨-(hours * 60 + minutes), by push_cast; ring_nf⟩
        next => cases read
      next => cases read

theorem inMinutes_of_reading? {text : List Char} {reading : Reading} (read : reading? text = some reading) :
    InMinutes reading.offset := by
  unfold reading? at read
  simp only [Option.bind_eq_bind, Option.bind_eq_some_iff] at read
  obtain ⟨_, -, read⟩ := read
  -- The offset comes last, behind the mark between date and time of day.
  split at read
  next =>
    split at read
    next =>
      simp only [Option.bind_eq_some_iff] at read
      obtain ⟨_, -, _, -, _, -, _, -, _, -, offset, zone, read⟩ := read
      split at read
      next =>
        cases read
        exact inMinutes_of_offset? zone
      next => cases read
    next => cases read
  next => cases read

theorem inMinutes_of_dateReading? {text : List Char} {reading : Reading} (read : dateReading? text = some reading) :
    InMinutes reading.offset := by
  simp only [dateReading?, Option.bind_eq_bind, Option.bind_eq_some_iff] at read
  obtain ⟨_, -, read⟩ := read
  split at read
  next =>
    cases read
    exact .inl rfl
  next => cases read

theorem Reading.offset_of_dateTime? {reading : Reading} {t : DateTime} (dated : reading.dateTime? = some t) :
    t.offset = reading.offset := by
  unfold dateTime? at dated
  split at dated
  next => cases dated
  next =>
    split at dated
    next =>
      cases dated
      rfl
    next => cases dated

end Iso

namespace UnixCount

theorem universal_of_micros? {micros : Int} {t : DateTime} (read : ofMicros? micros = some (some t)) : t.Universal := by
  unfold ofMicros? at read
  dsimp only at read
  split at read
  next => cases read
  next => exact DateTime.universal_of_ofEpoch? (Option.some.inj read)

theorem universal_of_real? {number : Binary64} {t : DateTime} (read : ofReal? number = some (some t)) : t.Universal := by
  unfold ofReal? at read
  split at read
  next => exact universal_of_micros? read
  next => cases read

theorem universal_of_text? {text : List Char} {t : DateTime} (read : ofText? text = some (some t)) : t.Universal := by
  unfold ofText? at read
  dsimp only at read
  split at read
  next =>
    obtain ⟨number, -, read⟩ := Option.bind_eq_some_iff.mp read
    exact universal_of_real? read
  next => exact universal_of_micros? read
  next => cases read

end UnixCount

namespace Lenient

theorem eq_some_of_dated {found : Option DateTime} {t : DateTime} (valid : dated found = .valid t) : found = some t := by
  cases found with
  | none => cases valid
  | some time =>
    cases valid
    rfl

end Lenient

namespace DateTime

theorem Universal.expressible {t : DateTime} (universal : t.Universal) : t.Expressible := .inr ⟨0, by rw [universal]; simp⟩

theorem expressible_of_writtenTime {text : List Char} {t : DateTime} (read : Lenient.writtenTime text = .valid t) :
    t.Expressible := by
  unfold Lenient.writtenTime at read
  split at read
  next reading found =>
    have dated := Iso.Reading.offset_of_dateTime? (Lenient.eq_some_of_dated read)
    unfold Expressible
    rw [dated]
    exact Iso.inMinutes_of_reading? found
  next =>
    split at read
    next counted found =>
      rw [Lenient.eq_some_of_dated read] at found
      exact (UnixCount.universal_of_text? found).expressible
    next =>
      split at read
      next reading found =>
        have dated := Iso.Reading.offset_of_dateTime? (Lenient.eq_some_of_dated read)
        unfold Expressible
        rw [dated]
        exact Iso.inMinutes_of_dateReading? found
      next => cases read

/-- Whatever a time is read from, it is expressible. -/
theorem expressible_of_time {value : Value} {t : DateTime} (read : Lenient.time value = .valid t) : t.Expressible := by
  unfold Lenient.time at read
  split at read
  next content =>
    unfold Lenient.written at read
    split at read
    next => exact expressible_of_writtenTime read
    next => cases read
  next number =>
    split at read
    next counted found =>
      rw [Lenient.eq_some_of_dated read] at found
      exact (UnixCount.universal_of_micros? found).expressible
    next => cases read
    next => cases read
  next number =>
    unfold Lenient.countedTime at read
    split at read
    next counted found =>
      rw [Lenient.eq_some_of_dated read] at found
      exact (UnixCount.universal_of_real? found).expressible
    next => cases read
  next => cases read

end DateTime

end PaidAccess
