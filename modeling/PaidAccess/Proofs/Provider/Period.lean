import Mathlib.Data.List.Dedup
import PaidAccess.Store.Memory
import PaidAccess.Proofs.Calendar.Order
/-!
The periods of a subscription, as they are observed one after another. A period that only moves forward does not
come back once it was left, so the periods that are observed for the first time are the distinct ones.
-/

namespace PaidAccess

structure Period where
  start : DateTime
  finish : DateTime
  deriving DecidableEq

namespace Period

structure Sound (period : Period) : Prop where
  starts : period.start.Zoned
  ends : period.finish.Zoned
  ordered : period.start.instant < period.finish.instant

/-- Whether the period moves forward from one to another, if it moves at all. -/
def Onward (first second : Period) : Prop := first = second ∨ first.finish.atMost second.start = .ok true

/-- The periods that are observed for the first time, after the one that was observed last. -/
def renewals : Option Period → List Period → List Period
  | _, [] => []
  | last, period :: rest => (if last = some period then [] else [period]) ++ renewals (some period) rest

variable {first second period : Period}

theorem Onward.instants (onward : first.Onward second) (sound : first.Sound) (also : second.Sound) :
    first = second ∨ first.finish.instant ≤ second.start.instant := by
  refine onward.imp_right fun later => ?_
  rw [DateTime.atMost_of_zoned sound.ends also.starts] at later
  injection later with later
  exact of_decide_eq_true later

theorem Onward.atMost (onward : first.Onward second) (sound : first.Sound) (also : second.Sound) :
    first.finish.atMost second.finish = .ok true := by
  rw [DateTime.atMost_of_zoned sound.ends also.ends]
  refine congrArg Except.ok (decide_eq_true ?_)
  rcases onward.instants sound also with rfl | later
  · exact Int.le_refl _
  · have ordered := also.ordered
    omega

theorem later_of_chain {periods : List Period} (onward : (period :: periods).IsChain Onward)
    (sound : ∀ other ∈ period :: periods, other.Sound) {other : Period} (member : other ∈ periods) :
    period = other ∨ period.finish.instant ≤ other.start.instant := by
  induction periods generalizing period with
  | nil => cases member
  | cons next rest ih =>
    obtain ⟨step, chain⟩ := List.isChain_cons_cons.mp onward
    have nextSound := sound next (List.mem_cons_of_mem _ List.mem_cons_self)
    have here := step.instants (sound period List.mem_cons_self) nextSound
    rcases List.mem_cons.mp member with rfl | later
    · exact here
    · have there := ih chain (fun other member => sound other (List.mem_cons_of_mem _ member)) later
      have ordered := nextSound.ordered
      rcases here with rfl | here
      · exact there
      · rcases there with rfl | there
        · exact .inr here
        · exact .inr (by omega)

theorem notMem_of_chain {periods : List Period} (onward : (period :: second :: periods).IsChain Onward)
    (sound : ∀ other ∈ period :: second :: periods, other.Sound) (left : period ≠ second) :
    period ∉ second :: periods := by
  obtain ⟨step, chain⟩ := List.isChain_cons_cons.mp onward
  have before := sound period List.mem_cons_self
  have after := sound second (List.mem_cons_of_mem _ List.mem_cons_self)
  have moved := (step.instants before after).resolve_left left
  intro back
  rcases List.mem_cons.mp back with same | later
  · exact left same
  · rcases later_of_chain chain (fun other member => sound other (List.mem_cons_of_mem _ member)) later with same | again
    · exact left same.symm
    · have first := before.ordered
      have last := after.ordered
      omega

/-- As a period that was left does not come back, those that are observed for the first time are the distinct
ones. -/
theorem renewals_eq_dedup {periods : List Period} (onward : (period :: periods).IsChain Onward)
    (sound : ∀ other ∈ period :: periods, other.Sound) :
    period :: renewals (some period) periods = (period :: periods).dedup := by
  induction periods generalizing period with
  | nil => rfl
  | cons next rest ih =>
    have chain := (List.isChain_cons_cons.mp onward).2
    have others := ih chain fun other member => sound other (List.mem_cons_of_mem _ member)
    by_cases same : period = next
    · subst same
      rw [List.dedup_cons_of_mem List.mem_cons_self, ← others]
      simp [renewals]
    · rw [List.dedup_cons_of_notMem (notMem_of_chain onward sound same), ← others]
      simp [renewals, same]

theorem renewals_none_eq_dedup {periods : List Period} (onward : periods.IsChain Onward)
    (sound : ∀ other ∈ periods, other.Sound) : renewals none periods = periods.dedup := by
  cases periods with
  | nil => rfl
  | cons period rest =>
    rw [← renewals_eq_dedup onward sound]
    simp [renewals]

def reset (period : Period) (userId : String) (plan : Plan) : ResetCall :=
  ⟨.text userId, plan.id, some period.start, some period.finish⟩

end Period

end PaidAccess
