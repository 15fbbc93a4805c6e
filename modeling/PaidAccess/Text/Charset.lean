import PaidAccess.Text.Surrogate
import PaidAccess.Value.Display
/-!
Writing texts in a character set that may lack some of their characters.
-/

namespace PaidAccess

/-- A character set. That of Unicode lacks only halves of surrogate pairs. -/
inductive Charset where
  | ascii
  | unicode
  deriving DecidableEq

structure Unencodable where
  charset : Charset
  /-- The code point of the first of them. -/
  code : Nat
  first : Nat
  last : Nat
  deriving DecidableEq

namespace Charset

def lacks : Charset → Nat → Bool
  | .ascii, code => 128 ≤ code
  | .unicode, code => Surrogate.isHalf code

def objectionAt (charset : Charset) (codes : List Nat) (first : Nat) : Unencodable :=
  let run := (codes.drop first).takeWhile charset.lacks
  ⟨charset, run.headD 0, first, first + run.length - 1⟩

def objection? (charset : Charset) (text : String) : Option Unencodable :=
  let codes := Surrogate.codePoints text.toList
  (codes.findIdx? charset.lacks).map (charset.objectionAt codes)

def encoding : Charset → String
  | .ascii => "ascii"
  | .unicode => "utf-8"

def reason : Charset → String
  | .ascii => "ordinal not in range(128)"
  | .unicode => "surrogates not allowed"

end Charset

namespace Unencodable

def escape (code : Nat) : String :=
  if code < 0x100 then "\\x" ++ Value.hex 2 code
  else if code < 0x10000 then "\\u" ++ Value.hex 4 code
  else "\\U" ++ Value.hex 8 code

def message (objection : Unencodable) : String :=
  let place :=
    if objection.first = objection.last then
      s!"character '{escape objection.code}' in position {objection.first}"
    else s!"characters in position {objection.first}-{objection.last}"
  s!"'{objection.charset.encoding}' codec can't encode {place}: {objection.charset.reason}"

end Unencodable

end PaidAccess
