import PaidAccess.Value.Basic
import PaidAccess.Text.Surrogate
/-!
Reading JSON text into values. Numbers without a fraction or an exponent are integers; the words for
"not a number" and the infinities are accepted; a repeated field keeps its first place and its last
value. Integers of very many digits and very deep nesting are refused.
-/

namespace PaidAccess.Json

def isBlank (c : Char) : Bool := c == ' ' || c == '\n' || c == '\t' || c == '\r'

def skipBlanks (text : List Char) : List Char := text.dropWhile isBlank

def after? : List Char → List Char → Option (List Char)
  | [], rest => some rest
  | _ :: _, [] => none
  | c :: expected, d :: rest => if c = d then after? expected rest else none

def hexDigit? (c : Char) : Option Nat :=
  if c.isDigit then some (c.toNat - '0'.toNat)
  else if 'a' ≤ c ∧ c ≤ 'f' then some (c.toNat - 'a'.toNat + 10)
  else if 'A' ≤ c ∧ c ≤ 'F' then some (c.toNat - 'A'.toNat + 10)
  else none

def unit? : List Char → Option (Nat × List Char)
  | a :: b :: c :: d :: rest => do
      let a ← hexDigit? a
      let b ← hexDigit? b
      let c ← hexDigit? c
      let d ← hexDigit? d
      some (((a * 16 + b) * 16 + c) * 16 + d, rest)
  | _ => none

def character (code : Nat) : List Char :=
  if Surrogate.isHalf code then Surrogate.kept code else Surrogate.keptChar (Char.ofNat code)

/-- An escape after its backslash. Two surrogate escapes in a row are one character. -/
def escape? : List Char → Option (List Char × List Char)
  | '"' :: rest => some (['"'], rest)
  | '\\' :: rest => some (['\\'], rest)
  | '/' :: rest => some (['/'], rest)
  | 'b' :: rest => some (['\x08'], rest)
  | 'f' :: rest => some (['\x0C'], rest)
  | 'n' :: rest => some (['\n'], rest)
  | 'r' :: rest => some (['\r'], rest)
  | 't' :: rest => some (['\t'], rest)
  | 'u' :: rest => do
      let (high, rest) ← unit? rest
      match rest with
      | '\\' :: 'u' :: more =>
          match unit? more with
          | some (low, after) =>
              if 0xD800 ≤ high ∧ high < 0xDC00 ∧ 0xDC00 ≤ low ∧ low < 0xE000 then
                some (character (0x10000 + (high - 0xD800) * 0x400 + (low - 0xDC00)), after)
              else some (character high, rest)
          | none => some (character high, rest)
      | _ => some (character high, rest)
  | _ => none

/-- The rest of a string up to its closing quote. The fuel bounds the count of characters. -/
def string? : Nat → List Char → Option (List Char × List Char)
  | 0, _ => none
  | _ + 1, [] => none
  | _ + 1, '"' :: rest => some ([], rest)
  | fuel + 1, '\\' :: rest => do
      let (characters, rest) ← escape? rest
      let (text, rest) ← string? fuel rest
      some (characters ++ text, rest)
  | fuel + 1, c :: rest =>
      if c.toNat < 0x20 then none
      else do
        let (text, rest) ← string? fuel rest
        some (c :: text, rest)

inductive Fault where
  /-- The text is not JSON. -/
  | malformed
  /-- The text is encoded wrongly, or holds an integer of more digits than are read. -/
  | unreadable
  /-- Lists and records are nested deeper than is read, and the one too deep is a list or a record. -/
  | tooDeep (isList : Bool)
  deriving DecidableEq

def expected {α : Type} : Option α → Except Fault α
  | some found => .ok found
  | none => .error .malformed

def mostDigits : Nat := 4300

def greatestDepth : Nat := 950

def decimal (digits : List Char) : Nat :=
  digits.foldl (fun value digit => 10 * value + (digit.toNat - '0'.toNat)) 0

def digits (text : List Char) : List Char × List Char :=
  (text.takeWhile Char.isDigit, text.dropWhile Char.isDigit)

def fraction (text : List Char) : Option (List Char) × List Char :=
  match text with
  | '.' :: rest =>
      match digits rest with
      | ([], _) => (none, text)
      | (found, after) => (some found, after)
  | _ => (none, text)

def exponent (text : List Char) : Option Int × List Char :=
  match text with
  | mark :: rest =>
      if mark = 'e' ∨ mark = 'E' then
        let signed := match rest with
          | '-' :: more => (true, more)
          | '+' :: more => (false, more)
          | _ => (false, rest)
        match digits signed.2 with
        | ([], _) => (none, text)
        | (found, after) =>
            let size : Int := decimal found
            (some (if signed.1 then -size else size), after)
      else (none, text)
  | [] => (none, text)

def number (text : List Char) : Except Fault (Value × List Char) :=
  let signed := match text with
    | '-' :: rest => (true, rest)
    | _ => (false, text)
  let whole := match signed.2 with
    | '0' :: rest => (['0'], rest)
    | _ => digits signed.2
  if whole.1.isEmpty then .error .malformed
  else
    let part := fraction whole.2
    let power := exponent part.2
    match part.1, power.1 with
    | none, none =>
        if mostDigits < whole.1.length then .error .unreadable
        else
          let size : Int := decimal whole.1
          .ok (.int (if signed.1 then -size else size), whole.2)
    | places, shift =>
        let places := places.getD []
        let value := Binary64.ofDecimal signed.1 (decimal (whole.1 ++ places))
          (shift.getD 0 - places.length)
        .ok (.real value, power.2)

def words : List (List Char × Value) :=
  [("null".toList, .null), ("true".toList, .bool true), ("false".toList, .bool false),
   ("NaN".toList, .real .nan), ("Infinity".toList, .real (.infinite false)),
   ("-Infinity".toList, .real (.infinite true))]

def scalar (text : List Char) : Except Fault (Value × List Char) :=
  match words.findSome? fun word => (after? word.1 text).map (word.2, ·) with
  | some found => .ok found
  | none => number text

mutual

/-- A value at the beginning of a text without leading blanks. The fuel bounds the work, and `depth` is
how many more levels of lists and records are read. -/
def value : Nat → Nat → List Char → Except Fault (Value × List Char)
  | 0, _, _ => .error .malformed
  | fuel + 1, _, '"' :: rest => do
      let (text, rest) ← expected (string? (fuel + 1) rest)
      return (.text (String.ofList text), rest)
  | _ + 1, 0, '[' :: _ => .error (.tooDeep true)
  | _ + 1, 0, '\x7b' :: _ => .error (.tooDeep false)
  | fuel + 1, depth + 1, '[' :: rest =>
      match skipBlanks rest with
      | ']' :: rest => .ok (.list [], rest)
      | rest => do
          let (items, rest) ← items fuel depth rest
          return (.list items, rest)
  | fuel + 1, depth + 1, '\x7b' :: rest =>
      match skipBlanks rest with
      | '\x7d' :: rest => .ok (.record [], rest)
      | rest => do
          let (fields, rest) ← fields fuel depth [] rest
          return (.record fields, rest)
  | _ + 1, _, text => scalar text

def items : Nat → Nat → List Char → Except Fault (List Value × List Char)
  | 0, _, _ => .error .malformed
  | fuel + 1, depth, text => do
      let (item, rest) ← value fuel depth (skipBlanks text)
      match skipBlanks rest with
      | ',' :: rest => do
          let (items, rest) ← items fuel depth rest
          return (item :: items, rest)
      | ']' :: rest => return ([item], rest)
      | _ => .error .malformed

def fields : Nat → Nat → Fields → List Char → Except Fault (Fields × List Char)
  | 0, _, _, _ => .error .malformed
  | fuel + 1, depth, found, text =>
      match skipBlanks text with
      | '"' :: rest => do
          let (name, rest) ← expected (string? (fuel + 1) rest)
          match skipBlanks rest with
          | ':' :: rest => do
              let (value, rest) ← value fuel depth (skipBlanks rest)
              let found := found.set (String.ofList name) value
              match skipBlanks rest with
              | ',' :: rest => fields fuel depth found rest
              | '\x7d' :: rest => return (found, rest)
              | _ => .error .malformed
          | _ => .error .malformed
      | _ => .error .malformed

end

/-- The value that a whole text stands for. Each step of the reader uses up a character, so twice the
length is fuel enough. -/
def read (text : String) : Except Fault Value := do
  let characters := text.toList
  let (value, rest) ← value (2 * characters.length + 2) greatestDepth (skipBlanks characters)
  if (skipBlanks rest).isEmpty then return value else .error .malformed

end PaidAccess.Json
