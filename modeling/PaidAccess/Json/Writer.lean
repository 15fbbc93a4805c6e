import PaidAccess.Value.Display
/-!
Writing values as JSON text, without blanks. A floating point number is written with its shortest
digits, an expandable object as its contents. Halves of surrogate pairs are written as they are kept;
`spellOut` turns them into escapes.
-/

namespace PaidAccess.Json

def writeChar (c : Char) : String :=
  if c = '"' then "\\\""
  else if c = '\\' then "\\\\"
  else if c = '\n' then "\\n"
  else if c = '\r' then "\\r"
  else if c = '\t' then "\\t"
  else if c = '\x08' then "\\b"
  else if c = '\x0C' then "\\f"
  else if c.toNat < 0x20 then "\\u" ++ Value.hex 4 c.toNat
  else String.singleton c

def writeText (text : String) : String :=
  "\"" ++ String.join (text.toList.map writeChar) ++ "\""

mutual

def write : Value → String
  | .null => "null"
  | .bool flag => if flag then "true" else "false"
  | .int number => toString number
  | .real .nan => "NaN"
  | .real (.infinite negative) => if negative then "-Infinity" else "Infinity"
  | .real number => number.text
  | .text text => writeText text
  | .list items => "[" ++ ",".intercalate (writeItems items) ++ "]"
  | .record fields => "\x7b" ++ ",".intercalate (writeFields fields) ++ "\x7d"
  | .handle contents => write contents

def writeItems : List Value → List String
  | [] => []
  | item :: rest => write item :: writeItems rest

def writeFields : List (String × Value) → List String
  | [] => []
  | (name, value) :: rest => (writeText name ++ ":" ++ write value) :: writeFields rest

end

mutual

/-- Whether a value can be sent as JSON, which has no number that is not finite and is encoded without
halves of surrogate pairs. -/
def isStandard : Value → Bool
  | .real (.finite ..) => true
  | .real _ => false
  | .text content => Surrogate.isWhole content
  | .list items => areStandard items
  | .record fields => haveStandard fields
  | .handle contents => isStandard contents
  | _ => true

def areStandard : List Value → Bool
  | [] => true
  | item :: rest => isStandard item && areStandard rest

def haveStandard : List (String × Value) → Bool
  | [] => true
  | (name, value) :: rest => Surrogate.isWhole name && isStandard value && haveStandard rest

end

def spellCode (code : Nat) : String :=
  if Surrogate.isHalf code then "\\u" ++ Value.hex 4 code else String.singleton (Char.ofNat code)

def spellOut (written : String) : String :=
  if !written.contains Surrogate.mark then written
  else String.join ((Surrogate.codePoints written.toList).map spellCode)

end PaidAccess.Json
