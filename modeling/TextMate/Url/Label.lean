import TextMate.Url.Label.Direction
import TextMate.Url.Label.Joiner
import TextMate.Url.Label.Mapping
import TextMate.Url.Label.NormalForm
import TextMate.Url.Punycode

/-! Labels, the parts of domain names. -/
namespace TextMate.Url.Label

/-- The longest code that is decoded. -/
def codeBound : Nat := 2000

/-- The longest text that has a code. -/
def textBound : Nat := 1000

def isAscii (text : List Char) : Bool := text.all (·.toNat < 0x80)

def isLetter (c : Char) : Bool :=
  c.toNat < 0x80 || isDomainLetter c || isJoiner c

/-- Texts that have a code: not all ASCII, in normal form and not led by a mark. -/
def isCoded (text : List Char) : Bool :=
  text.length ≤ textBound && !isAscii text && text.all isLetter &&
    !text.head?.any isMark && areJoinersInPlace [] text && isNormal text

/-- The text that a label stands for. One that starts with `xn--` is the code of another text. -/
def text? : List Char → Option (List Char)
  | 'x' :: 'n' :: '-' :: '-' :: code =>
    if isAscii code && code.length ≤ codeBound then (Punycode.decode? code).filter isCoded
    else none
  | label => if isAscii label || isCoded label then some label else none

/-- A label that is not all ASCII is written as its code. -/
def ascii (label : List Char) : List Char :=
  if isAscii label then label else 'x' :: 'n' :: '-' :: '-' :: Punycode.encode label

/-- Directions matter for all labels of a name as soon as something in it is written from right. -/
def areInOrder (texts : List (List Char)) : Bool :=
  let directions := texts.map (·.map Direction.of)
  directions.all (·.all (!·.isFromRight)) || directions.all Direction.areInOrder

/-- The labels of a domain name, whose characters all stand for themselves, in ASCII. -/
def ascii? (labels : List (List Char)) : Option (List (List Char)) :=
  if (labels.mapM text?).any areInOrder then some (labels.map ascii) else none

/-- What a name stands for, in normal form. So is all that is ASCII. -/
def folded (name : List Char) : List Char :=
  if isAscii name then name.map Char.toLower
  else (normalForm ((name.flatMap meaning).map Char.toNat)).map Char.ofNat

end TextMate.Url.Label
