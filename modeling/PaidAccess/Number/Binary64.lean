/-!
Binary floating point numbers of 64 bits as exact data. A finite number is a significand times a
power of two, so every operation here is exact integer arithmetic followed by one rounding to
nearest, ties to even.
-/

namespace PaidAccess

/-- A binary floating point number of 64 bits. The value of a finite one is `significand * 2 ^ exponent`. -/
inductive Binary64 where
  | finite (negative : Bool) (significand : Nat) (exponent : Int)
  | infinite (negative : Bool)
  | nan
  deriving DecidableEq

namespace Binary64

def leastExponent : Int := -1074

def greatestExponent : Int := 971

def zero (negative : Bool) : Binary64 := .finite negative 0 leastExponent

/-- The integer nearest to a quotient; of two equally near ones the even one. -/
def nearest (numerator denominator : Nat) : Nat :=
  let quotient := numerator / denominator
  let twice := 2 * (numerator % denominator)
  if twice < denominator then quotient
  else if denominator < twice then quotient + 1
  else if quotient % 2 = 0 then quotient
  else quotient + 1

def scale (numerator denominator : Nat) (exponent : Int) : Nat × Nat :=
  if 0 ≤ exponent then (numerator, denominator * Nat.pow 2 exponent.toNat)
  else (numerator * Nat.pow 2 (-exponent).toNat, denominator)

def binaryMagnitude (numerator denominator : Nat) : Int :=
  let guess : Int := (numerator.log2 : Int) - denominator.log2
  let scaled := scale numerator denominator guess
  if scaled.2 ≤ scaled.1 then guess else guess - 1

def ofFraction (negative : Bool) (numerator denominator : Nat) : Binary64 :=
  if numerator = 0 ∨ denominator = 0 then zero negative
  else
    let exponent := max (binaryMagnitude numerator denominator - 52) leastExponent
    let scaled := scale numerator denominator exponent
    let rounded := nearest scaled.1 scaled.2
    let carried := if rounded = Nat.pow 2 53 then (Nat.pow 2 52, exponent + 1) else (rounded, exponent)
    if greatestExponent < carried.2 then .infinite negative
    else .finite negative carried.1 carried.2

def ofInt (n : Int) : Binary64 := ofFraction (n < 0) n.natAbs 1

def decimalWidth (n : Nat) : Nat := (Nat.toDigits 10 n).length

/-- The number nearest to `digits * 10 ^ exponent`. Exponents far outside the range of the format
are settled by the count of digits, so that no huge power is computed. -/
def ofDecimal (negative : Bool) (digits : Nat) (exponent : Int) : Binary64 :=
  if digits = 0 then zero negative
  else if 400 < (decimalWidth digits : Int) + exponent then .infinite negative
  else if (decimalWidth digits : Int) + exponent < -400 then zero negative
  else if 0 ≤ exponent then ofFraction negative (digits * Nat.pow 10 exponent.toNat) 1
  else ofFraction negative digits (Nat.pow 10 (-exponent).toNat)

def fraction (significand : Nat) (exponent : Int) : Nat × Nat :=
  if 0 ≤ exponent then (significand * Nat.pow 2 exponent.toNat, 1)
  else (significand, Nat.pow 2 (-exponent).toNat)

def isZero : Binary64 → Bool
  | .finite _ significand _ => significand == 0
  | _ => false

def signed (negative : Bool) (magnitude : Nat) : Int :=
  if negative then -(magnitude : Int) else magnitude

def truncate? : Binary64 → Option Int
  | .finite negative significand exponent =>
      let value := fraction significand exponent
      some (signed negative (value.1 / value.2))
  | _ => none

def whole? : Binary64 → Option Int
  | .finite negative significand exponent =>
      let value := fraction significand exponent
      if value.1 % value.2 = 0 then some (signed negative (value.1 / value.2)) else none
  | _ => none

def remainder? : Binary64 → Option (Bool × Nat × Nat)
  | .finite negative significand exponent =>
      let value := fraction significand exponent
      some (negative, value.1 % value.2, value.2)
  | _ => none

def scaleBy (factor : Nat) : Binary64 → Binary64
  | .finite negative significand exponent =>
      let value := fraction significand exponent
      ofFraction negative (value.1 * factor) value.2
  | other => other

def negate : Binary64 → Binary64
  | .finite negative significand exponent => .finite (!negative) significand exponent
  | .infinite negative => .infinite (!negative)
  | .nan => .nan

def add : Binary64 → Binary64 → Binary64
  | .nan, _ | _, .nan => .nan
  | .infinite a, .infinite b => if a = b then .infinite a else .nan
  | .infinite a, _ => .infinite a
  | _, .infinite b => .infinite b
  | .finite a m x, .finite b n y =>
      let least := min x y
      let sum := signed a (m * Nat.pow 2 (x - least).toNat) + signed b (n * Nat.pow 2 (y - least).toNat)
      if sum = 0 then zero (a && b)
      else
        let value := fraction sum.natAbs least
        ofFraction (sum < 0) value.1 value.2

def roundEven? : Binary64 → Option Nat
  | .finite _ significand exponent =>
      let value := fraction significand exponent
      some (nearest value.1 value.2)
  | _ => none

def roundUp? : Binary64 → Option Nat
  | .finite _ significand exponent =>
      let value := fraction significand exponent
      some ((2 * value.1 + value.2) / (2 * value.2))
  | _ => none

end Binary64

end PaidAccess
