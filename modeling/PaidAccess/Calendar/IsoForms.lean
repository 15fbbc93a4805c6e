import PaidAccess.Calendar.Iso
import PaidAccess.Value.Display
/-!
The many forms of a point in time in ISO 8601: calendar dates and week dates, with and without hyphens;
after any one character a time of day down to the microsecond, with and without colons; and an offset of
the same precision. One byte between the digits of a time of day and its offset is not looked at, and a
text may end at a null byte where it can end at all. All places are counted in bytes.
-/

namespace PaidAccess.IsoForms

inductive Fault where
  /-- The text has none of the forms. -/
  | malformed (text : String)
  | year (number : Int)
  | month
  | day
  | hour
  | minute
  | second
  /-- An offset of a day or more. -/
  | offset (ahead : Int)

inductive WrittenDate where
  | calendar (year month day : Nat)
  | week (year week day : Nat)

structure WrittenClock where
  hour : Nat
  minute : Nat
  second : Nat
  micro : Nat

def bytesOf (c : Char) : List Char := (String.utf8EncodeChar c).map fun byte => Char.ofNat byte.toNat

def continuesChar (byte : Char) : Bool := '\x80' ≤ byte && byte < '\xc0'

def separatorPlaces : List Nat := [7, 8, 10]

/-- The code points of a text after whose date an unpaired surrogate has given way to a letter. -/
def withLetter (codes : List Nat) : List Nat :=
  match separatorPlaces.find? fun place => codes[place]?.any Surrogate.isHalf with
  | some place => codes.set place 'T'.toNat
  | none => codes

/-- The bytes of a text. There are none for an unpaired surrogate, except after a date. -/
def bytes? (text : String) : Option (List Char) :=
  let codes := withLetter (Surrogate.codePoints text.toList)
  if codes.any Surrogate.isHalf then none else some (codes.flatMap fun code => bytesOf (Char.ofNat code))

/-- Whether nothing is left of a text, or only what a null byte cuts off. -/
def isAtEnd (text : List Char) : Bool := text.head?.all (· == '\x00')

def WrittenClock.micros (clock : WrittenClock) : Nat :=
  ((clock.hour * 60 + clock.minute) * 60 + clock.second) * microsPerSecond + clock.micro

/-- Where a week date without hyphens ends: its weekday is optional, and the digits of a time of day come
in pairs. -/
def endOfPlainWeek (text : List Char) : Nat :=
  let digits := 7 + ((text.drop 7).takeWhile Char.isDigit).length
  if digits < 9 then digits else if digits % 2 = 0 then 7 else 8

/-- Where the date of a text ends. A hyphen and a digit after a week begin a time of day when another
digit follows, and a weekday otherwise. -/
def endOfDate? (text : List Char) : Option Nat :=
  if text.length < 7 then none
  else if text.length = 7 then some 7
  else if text[4]? = some '-' then
    if text[5]? ≠ some 'W' then some 10
    else if text[8]? ≠ some '-' then some 8
    else if text.length = 9 then none
    else if (text[10]?).any Char.isDigit then some 8
    else some 10
  else if text[4]? = some 'W' then some (endOfPlainWeek text)
  else some 8

def weekDate? (hyphens : Bool) (year : Nat) (text : List Char) : Option WrittenDate := do
  let (week, rest) ← Iso.number? 2 text
  if rest.isEmpty then return .week year week 1
  let rest ← if hyphens then Iso.char? '-' rest else some rest
  let (day, _) ← Iso.number? 1 rest
  return .week year week day

def date? (text : List Char) : Option WrittenDate := do
  let (year, rest) ← Iso.number? 4 text
  let hyphens := rest.head? = some '-'
  let rest := if hyphens then rest.drop 1 else rest
  match rest with
  | 'W' :: rest => weekDate? hyphens year rest
  | _ => do
      let (month, rest) ← Iso.number? 2 rest
      let rest ← if hyphens then Iso.char? '-' rest else some rest
      let (day, _) ← Iso.number? 2 rest
      return .calendar year month day

def fraction? (text : List Char) : Option (Nat × Bool) :=
  let digits := text.take 6
  if digits.all Char.isDigit then
    some (Iso.micros digits, !isAtEnd ((text.drop 6).dropWhile Char.isDigit))
  else none

/-- Numbers of two digits, of which `remaining` are still to come, then the microseconds and whether
anything is left. The character after the first number decides whether colons separate the numbers. -/
def numbers? (colons : Option Bool) : Nat → List Char → Option (List Nat × Nat × Bool)
  | 0, text => do
      let (micros, isLeft) ← fraction? text
      return ([], micros, isLeft)
  | remaining + 1, text => do
      let (number, rest) ← Iso.number? 2 text
      match rest with
      | [] => return ([number], 0, false)
      | [c] => return ([number], 0, !isAtEnd [c])
      | c :: more =>
          let colons := colons.getD (c == ':')
          if c = '.' ∨ c = ',' then do
            let (micros, isLeft) ← fraction? more
            return ([number], micros, isLeft)
          else if colons && c ≠ ':' then none
          else do
            let (numbers, found) ← numbers? (some colons) remaining (if colons then more else rest)
            return (number :: numbers, found)

def clock? (text : List Char) : Option (WrittenClock × Bool) := do
  let (numbers, micro, isLeft) ← numbers? none 3 text
  return (⟨numbers[0]?.getD 0, numbers[1]?.getD 0, numbers[2]?.getD 0, micro⟩, isLeft)

def beginsOffset (c : Char) : Bool := c == '+' || c == '-' || c == 'Z'

/-- The microseconds of an offset. One of less than a second is none. -/
def offset? : List Char → Option Int
  | 'Z' :: rest => if isAtEnd rest then some 0 else none
  | mark :: rest => do
      let (clock, isLeft) ← clock? rest
      if isLeft then none
      else if clock.micros < microsPerSecond then some 0
      else some (if mark = '-' then -(clock.micros : Int) else clock.micros)
  | [] => none

def timeOfDay? (text : List Char) : Option (WrittenClock × Option Int) := do
  let (clock, isLeft) ← clock? (text.takeWhile fun c => !beginsOffset c)
  match text.dropWhile fun c => !beginsOffset c with
  | [] => if isLeft then none else some (clock, none)
  | zone => (offset? zone).map fun ahead => (clock, some ahead)

/-- The number of the Monday on which the weeks of a year begin: that of the week with its first
Thursday. The first day of the calendar is a Monday. -/
def firstMonday (year : Nat) : Int :=
  let first : Int := Date.daysOfYears (year - 1) + 1
  let weekday := (first + 6) % 7
  if weekday ≤ 3 then first - weekday else first - weekday + 7

def hasWeek (year week : Nat) : Bool :=
  1 ≤ week && (week ≤ 52
    || (week == 53 && year != 0 && firstMonday (year + 1) - firstMonday year == 371))

def WrittenDate.date (text : String) : WrittenDate → Except Fault Date
  | .calendar year month day =>
      if year < 1 then .error (.year year)
      else if month < 1 ∨ 12 < month then .error .month
      else
        match Date.of? year month day with
        | some date => .ok date
        | none => .error .day
  | .week year number day =>
      if !hasWeek year number ∨ day < 1 ∨ 7 < day then .error (.malformed text)
      else if year < 1 then .error .month
      else
        let ordinal := firstMonday year + (number - 1) * 7 + (day - 1)
        match Date.ofOrdinal? ordinal with
        | some date => .ok date
        | none => .error (.year (Date.yearOfOrdinal ordinal).1)

/-- The point in time with these parts. The offset is looked at first, then the date. -/
def assemble (text : String) (date : WrittenDate) (clock : WrittenClock) (offset : Option Int) :
    Except Fault DateTime := do
  if let some ahead := offset then
    if microsPerDay ≤ ahead.natAbs then throw (.offset ahead)
  let date ← date.date text
  if 24 ≤ clock.hour then throw .hour
  if 60 ≤ clock.minute then throw .minute
  if 60 ≤ clock.second then throw .second
  match DateTime.of? date clock.hour clock.minute clock.second clock.micro offset with
  | some time => return time
  | none => throw (.malformed text)

def parts? (text : List Char) : Option (WrittenDate × WrittenClock × Option Int) := do
  let length ← endOfDate? text
  let date ← date? (text.take length)
  match text.drop length with
  | [] => return (date, ⟨0, 0, 0, 0⟩, none)
  | _ :: rest => do
      let (clock, offset) ← timeOfDay? (rest.dropWhile continuesChar)
      return (date, clock, offset)

def read (text : String) : Except Fault DateTime :=
  match (bytes? text).bind parts? with
  | some (date, clock, offset) => assemble text date clock offset
  | none => .error (.malformed text)

def lengthText (micros : Int) : String :=
  let part (name : String) (number : Int) : List String :=
    if number = 0 then [] else [s!"{name}={number}"]
  ", ".intercalate (part "days" (micros / microsPerDay)
    ++ part "seconds" (micros % microsPerDay / microsPerSecond)
    ++ part "microseconds" (micros % microsPerSecond))

def Fault.message : Fault → String
  | .malformed text => "Invalid isoformat string: " ++ Value.quoted text
  | .year number => s!"year {number} is out of range"
  | .month => "month must be in 1..12"
  | .day => "day is out of range for month"
  | .hour => "hour must be in 0..23"
  | .minute => "minute must be in 0..59"
  | .second => "second must be in 0..59"
  | .offset ahead =>
      "offset must be a timedelta strictly between -timedelta(hours=24) and timedelta(hours=24), "
        ++ s!"not datetime.timedelta({lengthText ahead})."

end PaidAccess.IsoForms
