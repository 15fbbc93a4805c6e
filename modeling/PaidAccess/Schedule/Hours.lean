import PaidAccess.Text.Blank
import PaidAccess.Text.Digit
/-!
The hours of a day at which a job runs, as schedules are written: a star for all hours, single hours,
ranges from one hour to another, any of these with a step, and lists of them with commas.
-/

namespace PaidAccess

inductive HourItem where
  /-- All hours from midnight on, or every so many. -/
  | all (step : Option Nat)
  | single (hour : Nat)
  /-- The hours from the first to the last, or every so many of them. -/
  | range (first last : Nat) (step : Option Nat)
  /-- Every so many hours from the first one on. -/
  | onward (first step : Nat)
  deriving DecidableEq

namespace HourItem

def lastOfDay : Nat := 23

def stepFits (hours : Nat) (step : Option Nat) : Bool := step.all fun step => 1 ≤ step && step ≤ hours

/-- Whether an item has hours of the day only, and a step that leads from one hour to another. A range
that ends at midnight has the steps of the whole day. -/
def isValid : HourItem → Bool
  | .all step => stepFits lastOfDay step
  | .single hour => hour ≤ lastOfDay
  | .range first last step =>
      first ≤ last && last ≤ lastOfDay
        && stepFits (if last = 0 then lastOfDay - first else last - first) step
  | .onward first step => first ≤ lastOfDay && stepFits (lastOfDay - first) (some step)

def bounds : HourItem → Nat × Nat × Nat
  | .all step => (0, lastOfDay, step.getD 1)
  | .single hour => (hour, hour, 1)
  | .range first last step => (first, last, step.getD 1)
  | .onward first step => (first, lastOfDay, step)

def next? (item : HourItem) (hour : Nat) : Option Nat :=
  let (first, last, step) := item.bounds
  let found := first + (hour - first + step - 1) / step * step
  if found ≤ last then some found else none

def step? : List Char → Option (Option Nat)
  | [] => some none
  | '/' :: rest =>
      match Digit.number? rest with
      | some (step, []) => some (some step)
      | _ => none
  | _ => none

def ofChars? (text : List Char) : Option HourItem := do
  let item ← match text with
    | '*' :: rest => (step? rest).map .all
    | _ => do
        let (first, rest) ← Digit.number? text
        match rest with
        | '-' :: rest => do
            let (last, rest) ← Digit.number? rest
            (step? rest).map (.range first last)
        | _ =>
            (step? rest).map fun step =>
              match step with
              | some step => .onward first step
              | none => .single first
  if item.isValid then some item else none

def stepText (step : Option Nat) : String := (step.map fun step => s!"/{step}").getD ""

/-- The text of an item. A range of one hour is written as that hour. -/
def text : HourItem → String
  | .all step => "*" ++ stepText step
  | .single hour => toString hour
  | .range first last step => (if first = last then s!"{first}" else s!"{first}-{last}") ++ stepText step
  | .onward first step => toString first ++ stepText (some step)

end HourItem

structure HourPattern where
  items : List HourItem
  deriving DecidableEq

namespace HourPattern

def every : HourPattern := ⟨[.all none]⟩

def withoutBreak (text : List Char) : List Char :=
  if text.getLast? = some '\n' then text.dropLast else text

def ofText? (text : String) : Option HourPattern :=
  let pieces := (Blank.trim Blank.isWhiteOrSeparator text.toList).splitOn ','
  (pieces.mapM fun piece => HourItem.ofChars? (withoutBreak (Blank.trim (· == ' ') piece))).map .mk

def next? (pattern : HourPattern) (hour : Nat) : Option Nat :=
  (pattern.items.filterMap fun item => item.next? hour).min?

def text (pattern : HourPattern) : String := ",".intercalate (pattern.items.map HourItem.text)

end HourPattern

end PaidAccess
