import PaidAccess.Validation.Numeral
import PaidAccess.Calendar.Iso
import PaidAccess.Calendar.UnixCount
import PaidAccess.Text.Surrogate
/-!
Lenient readers of scalars. Numbers may be written as text, truth values as words or as zero and one,
and points in time as text or as seconds since 1970. A text is never made from anything else.
-/

namespace PaidAccess.Lenient

open Checked

def text : Value → Checked String
  | .text content => valid content
  | _ => fault .stringType

def isMachineInt (n : Int) : Bool := -Int.pow 2 63 ≤ n && n < Int.pow 2 63

/-- The integers that are read from floating point numbers. The least machine integer is not among
them. -/
def isWholeMachineInt (n : Int) : Bool := -Int.pow 2 63 < n && n < Int.pow 2 63

/-- Reads a text that has to stand for something else. No text with half of a surrogate pair does. -/
def written {α : Type} (content : String) (read : List Char → Checked α) : Checked α :=
  if Surrogate.isWhole content then read content.toList else fault .stringUnicode

def named {α : Type} (ofName? : String → Option α) (unknown : IssueKind) : Value → Checked α
  | .text content =>
      written content fun _ =>
        match ofName? content with
        | some meaning => valid meaning
        | none => fault unknown
  | _ => fault unknown

def integer : Value → Checked Int
  | .int number => valid number
  | .bool flag => valid (if flag then 1 else 0)
  | .real number =>
      match number with
      | .finite .. =>
          match number.whole? with
          | some whole => if isWholeMachineInt whole then valid whole else fault .intParsingSize
          | none => fault .intFromFloat
      | _ => fault .finiteNumber
  | .text content => written content Numeral.integer
  | _ => fault .intType

def integerFrom (least : Int) (value : Value) : Checked Int :=
  (integer value).andThen fun number => if least ≤ number then valid number else fault .greaterThanEqual

def integerWithin (least greatest : Int) (value : Value) : Checked Int :=
  (integerFrom least value).andThen fun number =>
    if number ≤ greatest then valid number else fault .lessThanEqual

def trueWords : List String := ["1", "on", "t", "true", "y", "yes"]

def falseWords : List String := ["0", "off", "f", "false", "n", "no"]

def flagOfInt (number : Int) : Checked Bool :=
  if number = 0 then valid false else if number = 1 then valid true else fault .boolParsing

def flag : Value → Checked Bool
  | .bool given => valid given
  | .int number => if isMachineInt number then flagOfInt number else fault .boolType
  | .real number =>
      match number.whole? with
      | some whole => if isWholeMachineInt whole then flagOfInt whole else fault .boolType
      | none => fault .boolType
  | .text content =>
      written content fun _ =>
        let word := content.toLower
        if word ∈ trueWords then valid true
        else if word ∈ falseWords then valid false
        else fault .boolParsing
  | _ => fault .boolType

def real : Value → Checked Binary64
  | .real number => valid number
  | .int number =>
      match Binary64.ofInt number with
      | .infinite _ => fault .floatType
      | finite => valid finite
  | .bool flag => valid (.ofInt (if flag then 1 else 0))
  | .text content =>
      written content fun characters =>
        match Numeral.real? characters with
        | some number => valid number
        | none => fault .floatParsing
  | _ => fault .floatType

def dated : Option DateTime → Checked DateTime
  | some time => valid time
  | none => fault .datetimeParsing

def writtenTime (text : List Char) : Checked DateTime :=
  match Iso.reading? text with
  | some reading => dated reading.dateTime?
  | none =>
      match UnixCount.ofText? text with
      | some found => dated found
      | none =>
          match Iso.dateReading? text with
          | some reading => dated reading.dateTime?
          | none => fault .datetimeFromDateParsing

def countedTime (number : Binary64) : Checked DateTime :=
  match UnixCount.ofReal? number with
  | some found => dated found
  | none => fault .datetimeParsing

/-- A point in time: a text, or a count since 1970 that a floating point number can hold. -/
def time : Value → Checked DateTime
  | .text content => written content writtenTime
  | .int number =>
      match UnixCount.ofInt? number, Binary64.ofInt number with
      | some found, _ => dated found
      | none, .finite .. => fault .datetimeParsing
      | none, _ => fault .datetimeType
  | .real number => countedTime number
  | _ => fault .datetimeType

end PaidAccess.Lenient
