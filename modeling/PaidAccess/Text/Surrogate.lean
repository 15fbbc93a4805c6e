/-!
Texts with unpaired surrogates. JSON can write half of a surrogate pair, for which there is no
character. Such a half is kept as a mark and a character that tells which half it is. The mark itself is
kept twice, so different texts stay different.
-/

namespace PaidAccess.Surrogate

/-- The character that stands before a kept half. It is the last code point, which is no character of
any script. -/
def mark : Char := Char.ofNat 0x10FFFF

def first : Nat := 0xD800

/-- The code point of the character that tells of the first half. It and those after it are ideographs,
which have neither case nor a meaning in any format. -/
def firstTeller : Nat := 0x4E00

def isHalf (code : Nat) : Bool := first ≤ code && code < 0xE000

def kept (code : Nat) : List Char := [mark, Char.ofNat (code - first + firstTeller)]

def keptChar (c : Char) : List Char := if c = mark then [mark, mark] else [c]

def keptText (text : String) : String :=
  if text.contains mark then String.ofList (text.toList.flatMap keptChar) else text

def codePoints : List Char → List Nat
  | [] => []
  | [c] => [c.toNat]
  | c :: d :: rest =>
      if c ≠ mark then c.toNat :: codePoints (d :: rest)
      else if d = mark then mark.toNat :: codePoints rest
      else (d.toNat - firstTeller + first) :: codePoints rest

def isWhole (text : String) : Bool :=
  !text.contains mark || (codePoints text.toList).all fun code => !isHalf code

end PaidAccess.Surrogate
