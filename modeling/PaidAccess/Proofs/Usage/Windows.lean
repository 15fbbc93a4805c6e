import PaidAccess.Proofs.Calendar.Order
/-!
The windows of a paid period that ends at a zoned time. There nothing stands in the way of a plan's
counters.
-/

namespace PaidAccess

def creditsClose (now cycleEnd : DateTime) : DateTime :=
  if cycleEnd.instant < (DateTime.dayEnd now.date).instant then cycleEnd else .dayEnd now.date

theorem creditsEnd_of_zoned {cycleEnd : DateTime} (zoned : cycleEnd.Zoned) (now : DateTime) :
    creditsEnd now cycleEnd = .ok (creditsClose now cycleEnd) := by
  unfold creditsEnd creditsClose
  dsimp only
  rw [DateTime.before_of_zoned zoned (DateTime.dayEnd_zoned now.date)]
  by_cases early : cycleEnd.instant < (DateTime.dayEnd now.date).instant <;>
    simp [early, bind, Except.bind, pure, Except.pure]

theorem dailyWindow_of_zoned {cycleEnd : DateTime} (zoned : cycleEnd.Zoned) (now : DateTime) :
    dailyWindow now cycleEnd = .ok (DateTime.dayStart now.date, creditsClose now cycleEnd) := by
  unfold dailyWindow
  rw [creditsEnd_of_zoned zoned]
  rfl

theorem creditsClose_zoned {cycleEnd : DateTime} (zoned : cycleEnd.Zoned) (now : DateTime) :
    (creditsClose now cycleEnd).Zoned := by
  unfold creditsClose
  split
  next => exact zoned
  next => exact DateTime.dayEnd_zoned now.date

def Plan.zeroCounters (plan : Plan) (userId : String) (start finish close : DateTime) : List UsageCounter :=
  (plan.dailyCredits.toList.map fun _ => ⟨userId, .aiCredits, .whole 0, start, close⟩) ++
    (plan.storageMegabytes.toList.map fun _ => ⟨userId, .storageMb, .whole 0, start, finish⟩)

theorem Plan.zeroCounters_distinct (plan : Plan) (userId : String) (start finish close : DateTime) :
    ((plan.zeroCounters userId start finish close).map UsageCounter.key).Nodup := by
  unfold Plan.zeroCounters
  cases plan.dailyCredits <;> cases plan.storageMegabytes <;> simp [UsageCounter.key]

theorem Plan.mem_zeroCounters {plan : Plan} {userId : String} {start finish close : DateTime}
    {counter : UsageCounter} :
    counter ∈ plan.zeroCounters userId start finish close ↔
      (plan.dailyCredits.isSome ∧ counter = ⟨userId, .aiCredits, .whole 0, start, close⟩) ∨
        (plan.storageMegabytes.isSome ∧ counter = ⟨userId, .storageMb, .whole 0, start, finish⟩) := by
  unfold Plan.zeroCounters
  cases plan.dailyCredits <;> cases plan.storageMegabytes <;> simp

theorem Plan.zeroCounters_of_freshCounters {plan : Plan} {userId : String} {start finish now : DateTime}
    {counters : List UsageCounter}
    (fresh : plan.freshCounters (.text userId) (some start) (some finish) now = .ok counters) :
    ∃ close, counters = plan.zeroCounters userId start finish close := by
  unfold Plan.freshCounters Plan.usageWindows at fresh
  unfold Plan.zeroCounters
  cases credits : plan.dailyCredits with
  | none =>
    rw [credits] at fresh
    refine ⟨finish, ?_⟩
    cases storage : plan.storageMegabytes <;> rw [storage] at fresh <;> cases fresh <;> rfl
  | some quota =>
    rw [credits] at fresh
    cases closes : creditsEnd now finish with
    | error failure =>
      simp only [closes] at fresh
      cases fresh
    | ok close =>
      simp only [closes] at fresh
      refine ⟨close, ?_⟩
      cases storage : plan.storageMegabytes <;> rw [storage] at fresh <;> cases fresh <;> rfl

theorem Plan.freshCounters_of_zoned (plan : Plan) (userId : String) (start : DateTime) {finish : DateTime}
    (zoned : finish.Zoned) (now : DateTime) :
    plan.freshCounters (.text userId) (some start) (some finish) now =
      .ok (plan.zeroCounters userId start finish (creditsClose now finish)) := by
  unfold Plan.freshCounters Plan.usageWindows Plan.zeroCounters
  have close := creditsEnd_of_zoned zoned now
  cases plan.dailyCredits with
  | none => cases plan.storageMegabytes <;> rfl
  | some credits =>
    simp only [close]
    cases plan.storageMegabytes <;> rfl

end PaidAccess
