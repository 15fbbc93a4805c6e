import PaidAccess.Text.HostLetter
import PaidAccess.Text.Parts
import PaidAccess.Json.Reader
import PaidAccess.Validation.Numeral
/-!
Hosts: the two kinds of numeric addresses, and names. A host in ASCII that is not written like a numeric
address can be any name.
-/

namespace PaidAccess.Http

inductive HostKind where
  /-- Four numbers. -/
  | four
  /-- Up to eight hexadecimal numbers in brackets. -/
  | six
  | name
  deriving DecidableEq

namespace Host

def isOctet (text : List Char) : Bool :=
  1 ≤ text.length && text.length ≤ 3 && text.all Char.isDigit
    && (text == ['0'] || text.head? != some '0') && Numeral.decimal text ≤ 255

def isFour (text : List Char) : Bool :=
  let octets := parts (· == '.') text
  octets.length == 4 && octets.all isOctet

def isGroup (text : List Char) : Bool :=
  1 ≤ text.length && text.length ≤ 4 && text.all fun c => (Json.hexDigit? c).isSome

def besideGap (groups : List (List Char)) : List (List Char) := if groups == [[]] then [] else groups

/-- Whether numbers make an address of eight. An empty one is a gap, which stands for the numbers that
are missing and there is only one. -/
def areEight (groups : List (List Char)) : Bool :=
  match (groups.drop 1).dropLast.findIdx? (·.isEmpty) with
  | none => groups.length == 8 && groups.all isGroup
  | some gap =>
      let shown := besideGap (groups.take (gap + 1)) ++ besideGap (groups.drop (gap + 2))
      shown.length ≤ 7 && shown.all isGroup

def groups? (text : List Char) : Option (List (List Char)) :=
  let groups := parts (· == ':') text
  let last := groups.getLast?.getD []
  if !last.contains '.' then some groups
  else if isFour last then some (groups.dropLast ++ [['0'], ['0']])
  else none

def isZone : List Char → Bool
  | [] => true
  | _ :: zone => !zone.isEmpty && !zone.contains '%'

def isSix (text : List Char) : Bool :=
  let (address, zone) := text.span (· != '%')
  isZone zone && (groups? address).any areEight

/-- How far four numbers may have come with one more character. Numbers are counted from one; the count
`2 * n - 1` stands before the first digit of a number and `2 * n` after it. Any character comes between
two numbers. -/
def advance (reached : List Nat) (c : Char) : List Nat :=
  (List.range 9).filter fun count =>
    if count % 2 = 0 then c.isDigit && (reached.contains count || reached.contains (count - 1))
    else reached.contains (count - 1)

/-- Whether a host is written like four numbers. -/
def looksLikeFour (host : List Char) : Bool := (host.foldl advance [1]).contains 8

def inBrackets? : List Char → Option (List Char)
  | '[' :: rest => if rest.getLast? = some ']' then some rest.dropLast else none
  | _ => none

def isNameChar (c : Char) : Bool :=
  c.isAlphanum || c == '-' || (128 ≤ c.toNat && HostLetter.isHostLetter c.toNat)

def isPoint (c : Char) : Bool := ['.', '\u3002', '\uFF0E', '\uFF61'].contains c

/-- How long a label can be. Encoding adds at least four characters to one that is not in ASCII. -/
def longestLabel (label : List Char) : Nat := if label.all fun c => c.toNat < 128 then 63 else 59

/-- Whether a text can be a label of an international name: short enough and without a hyphen at either
end, or at the third and the fourth place at once. -/
def isLabel (label : List Char) : Bool :=
  1 ≤ label.length && label.length ≤ longestLabel label && label.all isNameChar
    && label.head? != some '-' && label.getLast? != some '-' && (label.drop 2).take 2 != ['-', '-']

def labels (host : List Char) : List (List Char) :=
  let labels := parts isPoint host
  if labels.getLast? = some [] then labels.dropLast else labels

def isName (host : List Char) : Bool := !(labels host).isEmpty && (labels host).all isLabel

def objection? (host : List Char) : Option HostKind :=
  if looksLikeFour host then if isFour host then none else some .four
  else
    match inBrackets? host with
    | some address => if isSix address then none else some .six
    | none => if (host.all fun c => c.toNat < 128) || isName host then none else some .name

end Host

end PaidAccess.Http
