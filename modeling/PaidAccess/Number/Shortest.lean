import PaidAccess.Number.Binary64
/-!
The text of a floating point number: the fewest decimal digits that read back to it, written
positionally between one ten-thousandth and ten to the sixteenth and with an exponent elsewhere.
-/

namespace PaidAccess.Binary64

private def fractionLe (a b : Nat × Nat) : Bool := a.1 * b.2 ≤ b.1 * a.2

def decimalFraction (digits : Nat) (exponent : Int) : Nat × Nat :=
  if 0 ≤ exponent then (digits * Nat.pow 10 exponent.toNat, 1)
  else (digits, Nat.pow 10 (-exponent).toNat)

/-- The least `k` with the value below `10 ^ k`. The estimate from the binary logarithm is off by one
at most. -/
def decimalMagnitude (value : Nat × Nat) : Int :=
  let estimate := Int.fdiv (binaryMagnitude value.1 value.2 * 30103) 100000 + 1
  if fractionLe (decimalFraction 1 estimate) value then estimate + 1
  else if fractionLe (decimalFraction 1 (estimate - 1)) value then estimate
  else estimate - 1

/-- Among the two neighbours of a value on the grid of multiples of `10 ^ exponent`, the one that
reads back to the number; of two the nearer, and of two equally near the even one. -/
def readBack? (significand : Nat) (binaryExponent exponent : Int) : Option Nat :=
  let value := fraction significand binaryExponent
  let unit := decimalFraction 1 exponent
  let numerator := value.1 * unit.2
  let denominator := value.2 * unit.1
  let below := numerator / denominator
  let reads := fun digits => ofDecimal false digits exponent == .finite false significand binaryExponent
  let near := nearest numerator denominator
  let far := if near = below then below + 1 else below
  if reads near then some near else if reads far then some far else none

/-- The first count of digits, from one upwards, at which a decimal reads back. Seventeen digits
always suffice; the exact value stands in for a search that found nothing. -/
def shortestFrom (significand : Nat) (binaryExponent magnitude : Int) : List Nat → Nat × Int
  | [] =>
      let value := fraction significand binaryExponent
      (value.1 * Nat.pow 5 value.2.log2, -(value.2.log2 : Int))
  | count :: later =>
      match readBack? significand binaryExponent (magnitude - count) with
      | some digits => (digits, magnitude - count)
      | none => shortestFrom significand binaryExponent magnitude later

def stripZeros : Nat → Nat × Int → Nat × Int
  | 0, decimal => decimal
  | fuel + 1, (digits, exponent) =>
      if digits ≠ 0 ∧ digits % 10 = 0 then stripZeros fuel (digits / 10, exponent + 1)
      else (digits, exponent)

def shortest (significand : Nat) (binaryExponent : Int) : Nat × Int :=
  let magnitude := decimalMagnitude (fraction significand binaryExponent)
  let found := shortestFrom significand binaryExponent magnitude ((List.range 17).map (· + 1))
  stripZeros (decimalWidth found.1) found

/-- Writes a decimal: positionally, with a fractional part of at least one digit, when the exponent
of its leading digit is from -4 to 15, and otherwise with a signed exponent of at least two digits. -/
def layOut (digits : Nat) (exponent : Int) : String :=
  let text := toString digits
  let leading : Int := exponent + text.length - 1
  if -4 ≤ leading ∧ leading < 16 then
    if 0 ≤ exponent then text ++ String.ofList (List.replicate exponent.toNat '0') ++ ".0"
    else
      let places := (-exponent).toNat
      let padded := List.replicate (places + 1 - text.length) '0' ++ text.toList
      String.ofList (padded.take (padded.length - places)) ++ "."
        ++ String.ofList (padded.drop (padded.length - places))
  else
    let mantissa :=
      match text.toList with
      | [] => ""
      | [digit] => String.singleton digit
      | digit :: rest => String.singleton digit ++ "." ++ String.ofList rest
    let size := toString leading.natAbs
    mantissa ++ (if leading < 0 then "e-" else "e+") ++ (if size.length < 2 then "0" ++ size else size)

def text : Binary64 → String
  | .nan => "nan"
  | .infinite negative => if negative then "-inf" else "inf"
  | .finite negative significand exponent =>
      let sign := if negative then "-" else ""
      if significand = 0 then sign ++ "0.0"
      else
        let decimal := shortest significand exponent
        sign ++ layOut decimal.1 decimal.2

end PaidAccess.Binary64
