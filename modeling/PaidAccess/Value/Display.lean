import PaidAccess.Value.Basic
import PaidAccess.Number.Shortest
import PaidAccess.Text.Printable
import PaidAccess.Text.Surrogate
/-!
The text of a value as messages and identifiers show it. A text stands for itself at the top and is
quoted inside a list or a record.
-/

namespace PaidAccess.Value

def hex (width : Nat) (code : Nat) : String :=
  let digits := Nat.toDigits 16 code
  String.ofList (List.replicate (width - digits.length) '0' ++ digits)

def quoteCode (quote : Char) (code : Nat) : String :=
  let c := Char.ofNat code
  if c = quote ∨ c = '\\' then String.ofList ['\\', c]
  else if c = '\n' then "\\n"
  else if c = '\r' then "\\r"
  else if c = '\t' then "\\t"
  else if Printable.isPrintable code then String.singleton c
  else if code < 0x100 then "\\x" ++ hex 2 code
  else if code < 0x10000 then "\\u" ++ hex 4 code
  else "\\U" ++ hex 8 code

/-- A quoted text. Single quotes are used unless the text holds one and no double quote. -/
def quoted (text : String) : String :=
  let characters := text.toList
  let quote := if characters.contains '\'' && !characters.contains '"' then '"' else '\''
  String.singleton quote
    ++ String.join ((Surrogate.codePoints characters).map (quoteCode quote)) ++ String.singleton quote

mutual

def literal : Value → String
  | .null => "None"
  | .bool flag => if flag then "True" else "False"
  | .int number => toString number
  | .real number => number.text
  | .text content => quoted content
  | .list items => "[" ++ ", ".intercalate (literals items) ++ "]"
  | .record fields => "\x7b" ++ ", ".intercalate (pairs fields) ++ "\x7d"
  | .handle contents => literal contents

def literals : List Value → List String
  | [] => []
  | item :: rest => literal item :: literals rest

def pairs : List (String × Value) → List String
  | [] => []
  | (name, value) :: rest => (quoted name ++ ": " ++ literal value) :: pairs rest

end

def display : Value → String
  | .text content => content
  | value => literal value

end PaidAccess.Value
