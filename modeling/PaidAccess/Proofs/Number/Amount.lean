import Mathlib.Order.Basic
import PaidAccess.Number.Amount
/-!
Sums of amounts that are not below zero. Neither rounding nor the two zeros take such a sum below zero, and it is never no number.
-/

namespace PaidAccess

namespace Binary64

/-- Whether a number is not below zero; both zeros count. -/
def Nonnegative : Binary64 → Prop
  | .finite negative significand _ => negative = false ∨ significand = 0
  | .infinite negative => negative = false
  | .nan => False

theorem nonnegative_ofFraction (numerator denominator : Nat) : (ofFraction false numerator denominator).Nonnegative := by
  unfold ofFraction
  dsimp only
  split
  next => exact .inl rfl
  next =>
    generalize (if _ = Nat.pow 2 53 then _ else _ : Nat × Int) = carried
    split
    next => rfl
    next => exact .inl rfl

theorem nonnegative_ofInt {number : Int} (positive : 0 ≤ number) : (ofInt number).Nonnegative := by
  unfold ofInt
  rw [decide_eq_false (Int.not_lt.mpr positive)]
  exact nonnegative_ofFraction _ _

theorem signed_nonneg {negative : Bool} {significand : Nat} (sign : negative = false ∨ significand = 0) (factor : Nat) :
    0 ≤ signed negative (significand * factor) := by
  unfold signed
  rcases sign with rfl | rfl
  · exact Int.natCast_nonneg _
  · simp

theorem Nonnegative.add {first second : Binary64} (here : first.Nonnegative) (there : second.Nonnegative) :
    (first.add second).Nonnegative := by
  cases first with
  | nan => cases here
  | infinite sign =>
    obtain rfl : sign = false := here
    cases second with
    | nan => cases there
    | infinite other =>
      obtain rfl : other = false := there
      rfl
    | finite => rfl
  | finite sign significand exponent =>
    cases second with
    | nan => cases there
    | infinite other => exact there
    | finite other significand' exponent' =>
      have sum := Int.add_nonneg (signed_nonneg here (Nat.pow 2 (exponent - min exponent exponent').toNat))
        (signed_nonneg there (Nat.pow 2 (exponent' - min exponent exponent').toNat))
      unfold Binary64.add
      dsimp only
      split
      next => exact .inr rfl
      next =>
        rw [decide_eq_false (Int.not_lt.mpr sum)]
        exact nonnegative_ofFraction _ _

theorem fraction_eq_zero_iff {significand : Nat} {exponent : Int} : (fraction significand exponent).1 = 0 ↔ significand = 0 := by
  unfold fraction
  split
  next =>
    have power : Nat.pow 2 exponent.toNat ≠ 0 := Nat.ne_of_gt (Nat.pow_pos (by decide))
    exact ⟨fun zero => (Nat.mul_eq_zero.mp zero).resolve_right power, fun zero => by simp [zero]⟩
  next => exact Iff.rfl

theorem signed_neg_iff {negative : Bool} {magnitude : Nat} : signed negative magnitude < 0 ↔ negative = true ∧ magnitude ≠ 0 := by
  unfold signed
  cases negative <;> simp [Nat.pos_iff_ne_zero]

end Binary64

namespace Amount

def Nonnegative : Amount → Prop
  | .whole number => 0 ≤ number
  | .real number => number.Nonnegative

theorem zero_atMost_iff {amount : Amount} : (whole 0).atMost amount = true ↔ amount.Nonnegative := by
  cases amount with
  | whole number => simp [atMost, exceeds, isNan, Nonnegative]
  | real number =>
    cases number with
    | nan => simp [atMost, isNan, Nonnegative, Binary64.Nonnegative]
    | infinite sign => simp [atMost, exceeds, fraction?, isInfinite, isNan, Nonnegative, Binary64.Nonnegative]
    | finite sign significand exponent =>
      have below := @Binary64.signed_neg_iff sign (Binary64.fraction significand exponent).1
      rw [ne_eq, Binary64.fraction_eq_zero_iff] at below
      simp [atMost, exceeds, fraction?, isNan, Nonnegative, Binary64.Nonnegative, below, or_iff_not_imp_left]

theorem Nonnegative.toReal? {amount : Amount} {number : Binary64} (positive : amount.Nonnegative)
    (real : amount.toReal? = some number) : number.Nonnegative := by
  cases amount with
  | real => cases real; exact positive
  | whole whole =>
    unfold Amount.toReal? at real
    dsimp only at real
    split at real
    next => cases real
    next =>
      cases real
      exact Binary64.nonnegative_ofInt positive

theorem Nonnegative.add? {first second sum : Amount} (here : first.Nonnegative) (there : second.Nonnegative)
    (total : first.add? second = some sum) : sum.Nonnegative := by
  have rounded : ∀ {total : Option Amount}, total = (do return .real ((← first.toReal?).add (← second.toReal?))) →
      total = some sum → sum.Nonnegative := by
    rintro _ rfl total
    obtain ⟨a, one, rest⟩ := Option.bind_eq_some_iff.mp total
    obtain ⟨b, other, rest⟩ := Option.bind_eq_some_iff.mp rest
    cases rest
    exact (here.toReal? one).add (there.toReal? other)
  cases first with
  | real => exact rounded (by cases second <;> rfl) total
  | whole first =>
    cases second with
    | real => exact rounded rfl total
    | whole second =>
      cases total
      exact Int.add_nonneg here there

end Amount

end PaidAccess
