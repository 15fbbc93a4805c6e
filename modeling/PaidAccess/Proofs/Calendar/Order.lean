import PaidAccess.Usage.Windows
/-!
The order of points in time. Times of one kind are ordered as the microseconds that they count; zoned
times are ordered as instants, whatever their offsets. The day of a time in universal time reaches from
its `dayStart` to its `dayEnd`.
-/

namespace PaidAccess.DateTime

theorem before_self (t : DateTime) : t.before t = .ok false := by
  unfold before compare?
  cases t.moment <;> simp

theorem atMost_of_before {a b : DateTime} (earlier : a.before b = .ok true) : b.atMost a = .ok false := by
  unfold before compare? at earlier
  unfold atMost compare?
  cases first : a.moment <;> cases second : b.moment <;>
    simp only [first, second, Except.ok.injEq, beq_iff_eq, reduceCtorEq] at earlier ⊢
  all_goals
    rw [Int.compare_eq_lt] at earlier
    simp [Int.compare_eq_gt.mpr earlier]

def Zoned (t : DateTime) : Prop := ∃ ahead, t.offset = some ahead

def instant (t : DateTime) : Int := t.wallMicros - t.offset.getD 0

theorem Zoned.moment {t : DateTime} (zoned : t.Zoned) : t.moment = .instant t.instant := by
  obtain ⟨ahead, offset⟩ := zoned
  simp [DateTime.moment, instant, offset]

theorem before_of_zoned {a b : DateTime} (first : a.Zoned) (second : b.Zoned) :
    a.before b = .ok (decide (a.instant < b.instant)) := by
  unfold before compare?
  rw [first.moment, second.moment]
  simp [← Int.compare_eq_lt, Bool.beq_eq_decide_eq]

theorem atMost_of_zoned {a b : DateTime} (first : a.Zoned) (second : b.Zoned) :
    a.atMost b = .ok (decide (a.instant ≤ b.instant)) := by
  unfold atMost compare?
  rw [first.moment, second.moment]
  simp [← Int.not_lt, ← Int.compare_eq_gt, bne, Bool.beq_eq_decide_eq]

theorem zoned_of_atMost {a b : DateTime} {earlier : Bool} (zoned : b.Zoned)
    (ordered : a.atMost b = .ok earlier) : a.Zoned := by
  unfold atMost compare? at ordered
  rw [zoned.moment] at ordered
  cases offset : a.offset with
  | some ahead => exact ⟨ahead, offset⟩
  | none => simp [moment, offset] at ordered

theorem zoned_of_before {a b : DateTime} {earlier : Bool} (zoned : a.Zoned)
    (ordered : a.before b = .ok earlier) : b.Zoned := by
  unfold before compare? at ordered
  rw [zoned.moment] at ordered
  cases offset : b.offset with
  | some ahead => exact ⟨ahead, offset⟩
  | none => simp [moment, offset] at ordered

theorem dayStart_zoned (date : Date) : (dayStart date).Zoned := ⟨0, rfl⟩

theorem dayEnd_zoned (date : Date) : (dayEnd date).Zoned := ⟨0, rfl⟩

theorem dayEnd_instant (date : Date) :
    (dayEnd date).instant = (dayStart date).instant + 86399999999 := by
  simp [instant, dayStart, dayEnd, wallMicros]

def Universal (t : DateTime) : Prop := t.offset = some 0

theorem Universal.zoned {t : DateTime} (universal : t.Universal) : t.Zoned := ⟨0, universal⟩

theorem Universal.instant_eq {t : DateTime} (universal : t.Universal) :
    t.instant = (dayStart t.date).instant + t.clock := by
  unfold Universal at universal
  simp [instant, dayStart, wallMicros, universal]

theorem Universal.dayStart_le {t : DateTime} (universal : t.Universal) :
    (dayStart t.date).instant ≤ t.instant := by
  rw [universal.instant_eq]
  omega

theorem Universal.le_dayEnd {t : DateTime} (universal : t.Universal) :
    t.instant ≤ (dayEnd t.date).instant := by
  have clock : t.clock < 86400000000 := t.clock_lt
  rw [universal.instant_eq, dayEnd_instant]
  omega

end PaidAccess.DateTime
