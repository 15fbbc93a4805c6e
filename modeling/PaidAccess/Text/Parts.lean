/-!
Texts cut into parts.
-/

namespace PaidAccess

def parts (isSeparator : Char → Bool) : List Char → List (List Char)
  | [] => [[]]
  | c :: rest =>
      if isSeparator c then [] :: parts isSeparator rest
      else
        match parts isSeparator rest with
        | [] => [[c]]
        | part :: others => (c :: part) :: others

def splitAtLast (mark : Char) (text : List Char) : List Char × List Char :=
  match text.reverse.span (· != mark) with
  | (_, []) => ([], text)
  | (rest, _ :: before) => (before.reverse, rest.reverse)

end PaidAccess
