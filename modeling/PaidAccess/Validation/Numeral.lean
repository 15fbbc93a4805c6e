import PaidAccess.Validation.Checked
import PaidAccess.Text.Blank
/-!
Numbers written as texts. A plain integer is digits, perhaps behind a minus. Around it blanks, a plus,
zeros in front, single underscores and a fraction of zeros are forgiven. A number with a fraction or an
exponent may have blanks around it or underscores in it, but not both.
-/

namespace PaidAccess.Numeral

open Checked

def decimal (digits : List Char) : Nat :=
  digits.foldl (fun value digit => 10 * value + (digit.toNat - '0'.toNat)) 0

def splitSign : List Char → Bool × List Char
  | '-' :: rest => (true, rest)
  | '+' :: rest => (false, rest)
  | rest => (false, rest)

def splitMinus : List Char → Bool × List Char
  | '-' :: rest => (true, rest)
  | rest => (false, rest)

def longest : Nat := 4300

/-- A plain integer: digits without a superfluous zero, perhaps behind a minus. One that begins with too
many digits is too long, whatever follows them. -/
def plainInteger (text : List Char) : Checked Int :=
  let signed := splitMinus text
  let digits := signed.2.takeWhile Char.isDigit
  let rest := signed.2.dropWhile Char.isDigit
  let isRead := rest.isEmpty && (digits == ['0'] || digits.head?.any (· != '0'))
  if digits.head?.any (· != '0') && longest < digits.length then fault .intParsingSize
  else if isRead then valid (Binary64.signed signed.1 (decimal digits))
  else fault .intParsing

def isLeading (c : Char) : Bool := c == '-' || ('1' ≤ c && c ≤ '9')

/-- What follows zeros, of which `last` is the last. Underscores count as zeros here. The last zero stays
in front of a point and at the end of the text. -/
def afterZeros? (last : Char) : List Char → Option (List Char)
  | [] => some [last]
  | c :: rest =>
      if c = '0' ∨ c = '_' then afterZeros? c rest
      else if c = '.' then some (last :: c :: rest)
      else if isLeading c then some (c :: rest)
      else none

def withoutZeros? : List Char → Option (List Char)
  | [] => none
  | c :: rest =>
      if c = '0' then afterZeros? c rest else if isLeading c then some (c :: rest) else none

def withoutZeroFraction (text : List Char) : List Char :=
  match text.dropWhile (· != '.') with
  | _ :: zero :: zeros => if (zero :: zeros).all (· == '0') then text.takeWhile (· != '.') else text
  | _ => text

def underscoresAreSingle (before : Char) : List Char → Bool
  | [] => before != '_'
  | c :: rest => !(before == '_' && c == '_') && underscoresAreSingle c rest

def withoutUnderscores? (text : List Char) : Option (List Char) :=
  if underscoresAreSingle '_' text then some (text.filter (· != '_')) else none

def withoutPlus? : List Char → Option (List Char)
  | '+' :: '-' :: _ => none
  | '+' :: rest => some rest
  | text => some text

def withoutLeadingZeros? : List Char → Option (List Char)
  | '-' :: rest => (withoutZeros? rest).map ('-' :: ·)
  | text => withoutZeros? text

def tidied? (text : List Char) : Option (List Char) := do
  let text ← withoutPlus? (Blank.trim Blank.isWhite text)
  let text ← withoutLeadingZeros? text
  withoutUnderscores? (withoutZeroFraction text)

/-- An integer that is written with liberties. One that is still too long when they are taken back is no
integer. -/
def looseInteger (text : List Char) : Checked Int :=
  match (tidied? text).map plainInteger with
  | some (valid number) => valid number
  | _ => fault .intParsing

def integer (text : List Char) : Checked Int :=
  match plainInteger text with
  | .faulty [⟨[], .intParsing⟩] => looseInteger text
  | read => read

def exponent? : List Char → Option Int
  | [] => some 0
  | mark :: rest =>
      let signed := splitSign rest
      if (mark = 'e' ∨ mark = 'E') ∧ signed.2 ≠ [] ∧ signed.2.all Char.isDigit then
        some (Binary64.signed signed.1 (decimal signed.2))
      else none

def plainReal? (text : List Char) : Option Binary64 :=
  let signed := splitSign text
  let word := (String.ofList signed.2).toLower
  if word = "inf" ∨ word = "infinity" then some (.infinite signed.1)
  else if word = "nan" then some .nan
  else
    let whole := signed.2.takeWhile Char.isDigit
    let rest := signed.2.dropWhile Char.isDigit
    let places := match rest with
      | '.' :: more => (more.takeWhile Char.isDigit, more.dropWhile Char.isDigit)
      | _ => ([], rest)
    if whole.isEmpty ∧ places.1.isEmpty then none
    else (exponent? places.2).map fun power =>
      .ofDecimal signed.1 (decimal (whole ++ places.1)) (power - places.1.length)

def real? (text : List Char) : Option Binary64 :=
  (plainReal? (Blank.trim Blank.isWhite text)).or ((withoutUnderscores? text).bind plainReal?)

end PaidAccess.Numeral
