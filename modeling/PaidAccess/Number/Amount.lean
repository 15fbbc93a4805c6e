import PaidAccess.Value.Basic
/-!
Amounts: integers of any size, and floating point numbers. Arithmetic on integers is exact. Where a
floating point number takes part, the integer is rounded to one first and the result is rounded; there is
no result when the integer is too large for that. Comparisons are exact.
-/

namespace PaidAccess

inductive Amount where
  | whole (number : Int)
  | real (number : Binary64)
  deriving DecidableEq

namespace Amount

def ofValue? : Value → Option Amount
  | .int number => some (.whole number)
  | .bool flag => some (.whole (if flag then 1 else 0))
  | .real number => some (.real number)
  | _ => none

def toValue : Amount → Value
  | .whole number => .int number
  | .real number => .real number

def toReal? : Amount → Option Binary64
  | .real number => some number
  | .whole number =>
      match Binary64.ofInt number with
      | .infinite _ => none
      | nearest => some nearest

def add? : Amount → Amount → Option Amount
  | .whole a, .whole b => some (.whole (a + b))
  | a, b => do return .real ((← a.toReal?).add (← b.toReal?))

def sub? : Amount → Amount → Option Amount
  | .whole a, .whole b => some (.whole (a - b))
  | a, b => do return .real ((← a.toReal?).add (← b.toReal?).negate)

def isNan : Amount → Bool
  | .real .nan => true
  | _ => false

def fraction? : Amount → Option (Int × Nat)
  | .whole number => some (number, 1)
  | .real (.finite negative significand exponent) =>
      let value := Binary64.fraction significand exponent
      some (Binary64.signed negative value.1, value.2)
  | .real _ => none

def isInfinite (negative : Bool) : Amount → Bool
  | .real (.infinite sign) => sign == negative
  | _ => false

def exceeds : Amount → Amount → Bool
  | .whole a, .whole b => b < a
  | a, b =>
      match a.fraction?, b.fraction? with
      | some a, some b => b.1 * a.2 < a.1 * b.2
      | some _, none => b.isInfinite true
      | none, some _ => a.isInfinite false
      | none, none => a.isInfinite false && b.isInfinite true

def atMost (a b : Amount) : Bool := !a.exceeds b && !a.isNan && !b.isNan

end Amount

end PaidAccess
