import PaidAccess.Json.Reader
/-!
JSON in one of the Unicode encodings. Which encoding the bytes are in shows in where the first bytes are
zero, since JSON begins with two characters of ASCII.
-/

namespace PaidAccess.Json

inductive Encoding where
  | utf8
  | utf16 (bigEndian : Bool)
  | utf32 (bigEndian : Bool)
  deriving DecidableEq

namespace Encoding

def ofBytes : List UInt8 → Encoding
  | [a, b] => if a = 0 then .utf16 true else if b = 0 then .utf16 false else .utf8
  | a :: b :: c :: d :: _ =>
      if a = 0 then if b = 0 then .utf32 true else .utf16 true
      else if b = 0 then if c = 0 ∧ d = 0 then .utf32 false else .utf16 false
      else .utf8
  | _ => .utf8

def number (bytes : List UInt8) : Nat := bytes.foldl (fun value byte => value * 256 + byte.toNat) 0

def pairs? (bigEndian : Bool) : List UInt8 → Option (List Nat)
  | [] => some []
  | [_] => none
  | a :: b :: rest =>
      (pairs? bigEndian rest).map (number (if bigEndian then [a, b] else [b, a]) :: ·)

def quads? (bigEndian : Bool) : List UInt8 → Option (List Nat)
  | [] => some []
  | a :: b :: c :: d :: rest =>
      (quads? bigEndian rest).map
        (number (if bigEndian then [a, b, c, d] else [d, c, b, a]) :: ·)
  | _ => none

def characters? : List Nat → Option (List Char)
  | [] => some []
  | code :: rest =>
      if 0x10FFFF < code then none else (characters? rest).map (character code ++ ·)

def joined : List Nat → List Nat
  | high :: low :: rest =>
      if 0xD800 ≤ high ∧ high < 0xDC00 ∧ 0xDC00 ≤ low ∧ low < 0xE000 then
        (0x10000 + (high - 0xD800) * 0x400 + (low - 0xDC00)) :: joined rest
      else high :: joined (low :: rest)
  | units => units

def unmarked (text : String) : String :=
  match text.toList with
  | '\uFEFF' :: rest => String.ofList rest
  | _ => text

def decode? (text : String) : Encoding → Option (List Char)
  | .utf8 => some (unmarked text).toList
  | .utf16 bigEndian => ((pairs? bigEndian text.toUTF8.toList).map joined).bind characters?
  | .utf32 bigEndian => (quads? bigEndian text.toUTF8.toList).bind characters?

end Encoding

/-- The value in bytes, which are given as the text that they are in UTF-8. -/
def readBytes (text : String) : Except Fault Value :=
  match (Encoding.ofBytes text.toUTF8.toList).decode? text with
  | some characters => read (String.ofList characters)
  | none => .error .unreadable

end PaidAccess.Json
