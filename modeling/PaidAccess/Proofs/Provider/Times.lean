import PaidAccess.Proofs.Calendar.Months
import PaidAccess.Proofs.Reconciliation.Effect
import PaidAccess.Proofs.Store.Search
/-!
The provider states points in time as counts of seconds, so in normal form they are all in universal time.
-/

namespace PaidAccess

def UniversalIfKnown (time : Option DateTime) : Prop := ∀ known, time = some known → known.Universal

theorem Checked.exists_of_outcome {α β γ δ : Type} {build : α → β → γ → δ} {first : Checked α}
    {second : Checked β} {third : Checked γ} {built : δ}
    (passed : (build <$> first <*> second <*> third).outcome = .ok built) :
    ∃ a b c, built = build a b c := by
  cases first <;> cases second <;> cases third <;> cases passed
  exact ⟨_, _, _, rfl⟩

namespace Payload

theorem timeOfMicros_universal {micros : Int} {time : DateTime} (read : timeOfMicros micros = .ok time) :
    time.Universal := by
  unfold timeOfMicros at read
  dsimp only at read
  split at read
  next =>
    split at read
    next => cases read
    next =>
      split at read
      next counted =>
        cases read
        exact DateTime.universal_of_ofEpoch? counted
      next => cases read
  next => cases read

theorem known_universal {micros : Int} {time : Option DateTime}
    (read : some <$> timeOfMicros micros = .ok time) : UniversalIfKnown time := by
  cases counted : timeOfMicros micros with
  | error failure =>
    rw [counted] at read
    cases read
  | ok known =>
    rw [counted] at read
    cases read
    rintro other ⟨⟩
    exact timeOfMicros_universal counted

theorem time?_universal {timestamp : Value} {time : Option DateTime} (read : time? timestamp = .ok time) :
    UniversalIfKnown time := by
  unfold time? at read
  split at read
  next =>
    split at read
    next => exact known_universal read
    next => exact known_universal read
    next =>
      obtain ⟨micros, -, read⟩ := Outcome.bind_eq_ok_iff.mp read
      exact known_universal read
    next => cases read
  next =>
    cases read
    exact fun _ => nofun

theorem invoicePeriod_universal {invoice : Value} {period : Option DateTime × Option DateTime}
    (read : invoicePeriod invoice = .ok period) : UniversalIfKnown period.1 ∧ UniversalIfKnown period.2 := by
  unfold invoicePeriod at read
  split at read
  next =>
    cases read
    exact ⟨fun _ => nofun, fun _ => nofun⟩
  next =>
    cases read
    exact ⟨fun _ => nofun, fun _ => nofun⟩
  next =>
    obtain ⟨_, -, read⟩ := Outcome.bind_eq_ok_iff.mp read
    obtain ⟨_, -, read⟩ := Outcome.bind_eq_ok_iff.mp read
    obtain ⟨line, -, read⟩ := Outcome.bind_eq_ok_iff.mp read
    cases line with
    | none =>
      cases read
      exact ⟨fun _ => nofun, fun _ => nofun⟩
    | some line =>
      obtain ⟨_, -, read⟩ := Outcome.bind_eq_ok_iff.mp read
      obtain ⟨_, -, read⟩ := Outcome.bind_eq_ok_iff.mp read
      obtain ⟨start, started, read⟩ := Outcome.bind_eq_ok_iff.mp read
      obtain ⟨finish, finished, read⟩ := Outcome.bind_eq_ok_iff.mp read
      cases read
      exact ⟨time?_universal started, time?_universal finished⟩

theorem subscription_universal {value : Value} {read : ProviderSubscription}
    (stated : subscription value = .ok read) :
    UniversalIfKnown read.periodStart ∧ UniversalIfKnown read.periodEnd ∧
      UniversalIfKnown read.invoicePeriodStart ∧ UniversalIfKnown read.invoicePeriodEnd := by
  unfold subscription at stated
  obtain ⟨_, -, stated⟩ := Outcome.bind_eq_ok_iff.mp stated
  obtain ⟨_, -, stated⟩ := Outcome.bind_eq_ok_iff.mp stated
  obtain ⟨item, -, stated⟩ := Outcome.bind_eq_ok_iff.mp stated
  cases item
  -- Whether there is a first item or not, what is made of it is read in the same way.
  all_goals
    obtain ⟨_, -, stated⟩ := Outcome.bind_eq_ok_iff.mp stated
    obtain ⟨_, -, stated⟩ := Outcome.bind_eq_ok_iff.mp stated
    obtain ⟨_, -, stated⟩ := Outcome.bind_eq_ok_iff.mp stated
    obtain ⟨invoice, invoiced, stated⟩ := Outcome.bind_eq_ok_iff.mp stated
    obtain ⟨_, -, stated⟩ := Outcome.bind_eq_ok_iff.mp stated
    obtain ⟨_, -, stated⟩ := Outcome.bind_eq_ok_iff.mp stated
    obtain ⟨start, started, stated⟩ := Outcome.bind_eq_ok_iff.mp stated
    obtain ⟨finish, finished, stated⟩ := Outcome.bind_eq_ok_iff.mp stated
    obtain ⟨_, -, stated⟩ := Outcome.bind_eq_ok_iff.mp stated
    obtain ⟨_, _, _, rfl⟩ := Checked.exists_of_outcome stated
    obtain ⟨first, last⟩ := invoicePeriod_universal invoiced
    exact ⟨time?_universal started, time?_universal finished, first, last⟩

end Payload

theorem Surroundings.period_universal {around : Surroundings} {id : Value} {subscription : ProviderSubscription}
    (stated : around.subscription id = .ok subscription) :
    UniversalIfKnown subscription.start? ∧ UniversalIfKnown subscription.finish? := by
  unfold Surroundings.subscription Surroundings.normal at stated
  split at stated
  next =>
    obtain ⟨start, finish, invoiceStart, invoiceFinish⟩ := Payload.subscription_universal stated
    constructor
    · intro known begins
      rcases Option.or_eq_some_iff.mp begins with here | ⟨-, there⟩
      · exact start known here
      · exact invoiceStart known there
    · intro known ends
      rcases Option.or_eq_some_iff.mp ends with here | ⟨-, there⟩
      · exact finish known here
      · exact invoiceFinish known there
  next => cases stated

theorem DateTime.addMonths_zoned {time later : DateTime} {months : Int} (zoned : time.Zoned)
    (moved : time.addMonths months = .ok later) : later.Zoned := by
  rcases time.addMonths_cases months with ⟨-, -, result, reached, away⟩ | ⟨-, failed⟩
  · rw [reached] at moved
    cases moved
    unfold DateTime.Zoned
    rw [away.offset]
    exact zoned
  · rw [failed] at moved
    cases moved

theorem Surroundings.period_zoned {around : Surroundings} {event : ReconcileEvent} {details : SubscriptionDetails}
    (now : around.now.Zoned) (known : around.details event = .ok details)
    (entitled : StatusBucket.ofStatus details.status = .entitled) :
    (∀ start, details.periodStart = some start → start.Zoned) ∧
      ∀ finish, details.periodEnd = some finish → finish.Zoned := by
  unfold Surroundings.details at known
  split at known
  next =>
    unfold Surroundings.simulation at known
    split at known
    next => cases known
    next =>
      obtain ⟨price, -, known⟩ := Outcome.bind_eq_ok_iff.mp known
      obtain ⟨later, moved, known⟩ := Outcome.bind_eq_ok_iff.mp known
      cases known
      constructor
      · rintro _ ⟨⟩
        exact now
      · rintro _ ⟨⟩
        exact DateTime.addMonths_zoned now moved
  next =>
    obtain ⟨subscription, stated, known⟩ := Outcome.bind_eq_ok_iff.mp known
    obtain ⟨period, complete, known⟩ := Outcome.bind_eq_ok_iff.mp known
    cases known
    have granted : subscription.bucket = .entitled := entitled
    unfold ProviderSubscription.period at complete
    simp only [granted, ne_eq, not_true_eq_false, ↓reduceIte] at complete
    split at complete
    next =>
      cases complete
      obtain ⟨starts, ends⟩ := period_universal stated
      exact ⟨fun start begins => (starts start begins).zoned, fun finish stops => (ends finish stops).zoned⟩
    next => cases complete

end PaidAccess
