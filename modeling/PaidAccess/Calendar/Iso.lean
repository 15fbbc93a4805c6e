import PaidAccess.Calendar.DateTime
/-!
The text form of points in time: year, month and day, a time of day with six fractional digits when
it has a fraction, and the offset. Reports write universal time as an offset of zero, wire formats
write it as the letter Z.
-/

namespace PaidAccess

def padded (width n : Nat) : String :=
  let digits := toString n
  String.ofList (List.replicate (width - digits.length) '0') ++ digits

namespace Date

def iso (date : Date) : String :=
  padded 4 date.year ++ "-" ++ padded 2 date.month ++ "-" ++ padded 2 date.day

end Date

namespace DateTime

def clockText (clock : Nat) : String :=
  let seconds := clock / microsPerSecond
  let micros := clock % microsPerSecond
  padded 2 (seconds / 3600) ++ ":" ++ padded 2 (seconds / 60 % 60) ++ ":" ++ padded 2 (seconds % 60)
    ++ (if micros = 0 then "" else "." ++ padded 6 micros)

def offsetMinutes (ahead : Int) : String :=
  let minutes := ahead.natAbs / (60 * microsPerSecond)
  (if ahead < 0 then "-" else "+") ++ padded 2 (minutes / 60) ++ ":" ++ padded 2 (minutes % 60)

def offsetText (ahead : Int) : String :=
  let seconds := ahead.natAbs / microsPerSecond % 60
  let micros := ahead.natAbs % microsPerSecond
  offsetMinutes ahead
    ++ (if seconds = 0 ∧ micros = 0 then "" else ":" ++ padded 2 seconds)
    ++ (if micros = 0 then "" else "." ++ padded 6 micros)

def iso (t : DateTime) : String :=
  t.date.iso ++ "T" ++ clockText t.clock ++ (t.offset.map offsetText).getD ""

def nearestSecond (micros : Int) : Int :=
  let size := (micros.natAbs + microsPerSecond / 2) / microsPerSecond * microsPerSecond
  if micros < 0 then -size else size

/-- The form of wire formats, with Z for universal time. Offsets are taken to the nearest second and
written to the minute. -/
def wire (t : DateTime) : String :=
  let zone := match t.offset with
    | none => ""
    | some ahead =>
        let ahead := nearestSecond ahead
        if ahead = 0 then "Z" else offsetMinutes ahead
  t.date.iso ++ "T" ++ clockText t.clock ++ zone

def spaced (t : DateTime) : String :=
  t.date.iso ++ " " ++ clockText t.clock ++ (t.offset.map offsetText).getD ""

end DateTime

namespace Iso

def digit? (c : Char) : Option Nat := if c.isDigit then some (c.toNat - '0'.toNat) else none

def number? : Nat → List Char → Option (Nat × List Char)
  | 0, rest => some (0, rest)
  | _ + 1, [] => none
  | count + 1, c :: rest => do
      let high ← digit? c
      let (low, rest) ← number? count rest
      some (high * Nat.pow 10 count + low, rest)

def char? (expected : Char) : List Char → Option (List Char)
  | [] => none
  | c :: rest => if c = expected then some rest else none

/-- The digits at the beginning of a text as microseconds: six count, and later ones are dropped. -/
def micros (digits : List Char) : Nat :=
  (digits.take 6).foldl (fun value c => 10 * value + (c.toNat - '0'.toNat)) 0
    * Nat.pow 10 (6 - min 6 digits.length)

def dateNumbers? (text : List Char) : Option ((Nat × Nat × Nat) × List Char) := do
  let (year, rest) ← number? 4 text
  let rest ← char? '-' rest
  let (month, rest) ← number? 2 rest
  let rest ← char? '-' rest
  let (day, rest) ← number? 2 rest
  if 1 ≤ month ∧ month ≤ 12 ∧ 1 ≤ day ∧ day ≤ monthLength year month then
    some ((year, month, day), rest)
  else none

def seconds? : List Char → Option ((Nat × Nat) × List Char)
  | ':' :: rest => do
      let (second, rest) ← number? 2 rest
      match rest with
      | mark :: more =>
          if mark = '.' ∨ mark = ',' then
            match more.takeWhile Char.isDigit with
            | [] => none
            | found => some ((second, micros found), more.dropWhile Char.isDigit)
          else some ((second, 0), rest)
      | [] => some ((second, 0), [])
  | rest => some ((0, 0), rest)

def offset? : List Char → Option (Option Int)
  | [] => some none
  | mark :: rest =>
      if mark = 'Z' ∨ mark = 'z' then if rest.isEmpty then some (some 0) else none
      else if mark = '+' ∨ mark = '-' ∨ mark = '\u2212' then do
        let (hours, rest) ← number? 2 rest
        let (minutes, rest) ← number? 2 ((char? ':' rest).getD rest)
        if rest.isEmpty ∧ hours < 24 ∧ minutes < 60 then
          let size : Int := (hours * 60 + minutes) * 60 * microsPerSecond
          some (some (if mark = '+' then size else -size))
        else none
      else none

structure Reading where
  year : Nat
  month : Nat
  day : Nat
  clock : Nat
  offset : Option Int

def reading? (text : List Char) : Option Reading := do
  let ((year, month, day), rest) ← dateNumbers? text
  let rest ← match rest with
    | mark :: rest => if mark ∈ ['T', 't', ' ', '_'] then some rest else none
    | [] => none
  let (hour, rest) ← number? 2 rest
  let rest ← char? ':' rest
  let (minute, rest) ← number? 2 rest
  let ((second, micro), rest) ← seconds? rest
  let offset ← offset? rest
  if hour < 24 ∧ minute < 60 ∧ second < 60 then
    some ⟨year, month, day, ((hour * 60 + minute) * 60 + second) * microsPerSecond + micro, offset⟩
  else none

def dateReading? (text : List Char) : Option Reading := do
  let ((year, month, day), rest) ← dateNumbers? text
  if rest.isEmpty then some ⟨year, month, day, 0, none⟩ else none

def Reading.dateTime? (reading : Reading) : Option DateTime :=
  match Date.of? reading.year reading.month reading.day with
  | none => none
  | some date =>
      if h : reading.clock < microsPerDay ∧
          ∀ ahead, reading.offset = some ahead → ahead.natAbs < microsPerDay then
        some ⟨date, reading.clock, reading.offset, h.1, h.2⟩
      else none

end Iso

end PaidAccess
