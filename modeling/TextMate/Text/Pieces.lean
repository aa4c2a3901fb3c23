/-! Texts cut at separators. -/
namespace TextMate.Text

/-- The texts between the occurrences of a separator, one more than there are occurrences. -/
def pieces (separator : Char) : List Char → List (List Char)
  | [] => [[]]
  | c :: rest =>
    if c = separator then [] :: pieces separator rest
    else
      match pieces separator rest with
      | [] => [[c]]
      | piece :: others => (c :: piece) :: others

/-- What stands before and after the first occurrence of a separator, if there is one. -/
def cutAt (separator : Char) : List Char → Option (List Char × List Char)
  | [] => none
  | c :: rest =>
    if c = separator then some ([], rest)
    else (cutAt separator rest).map fun cut => (c :: cut.1, cut.2)

/-- What stands before and after the last occurrence of a separator, if there is one. -/
def cutAtLast (separator : Char) (cs : List Char) : Option (List Char × List Char) :=
  (cutAt separator cs.reverse).map fun cut => (cut.2.reverse, cut.1.reverse)

end TextMate.Text
