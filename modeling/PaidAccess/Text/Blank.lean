/-!
Blank characters, and texts without the blanks around them. Two sets are in use: the white space of
Unicode, and the same with the four information separators.
-/

namespace PaidAccess.Blank

def whiteSpace : List (Nat × Nat) :=
  [(0x09, 0x0D), (0x20, 0x20), (0x85, 0x85), (0xA0, 0xA0), (0x1680, 0x1680), (0x2000, 0x200A),
   (0x2028, 0x2029), (0x202F, 0x202F), (0x205F, 0x205F), (0x3000, 0x3000)]

def isWhite (c : Char) : Bool := whiteSpace.any fun range => range.1 ≤ c.toNat && c.toNat ≤ range.2

def isWhiteOrSeparator (c : Char) : Bool := isWhite c || (0x1C ≤ c.toNat && c.toNat ≤ 0x1F)

def trim (isBlank : Char → Bool) (text : List Char) : List Char :=
  ((text.dropWhile isBlank).reverse.dropWhile isBlank).reverse

end PaidAccess.Blank
