import TextMate.Url.Label.CombiningClass
import TextMate.Url.Label.Composite

/-!
The normal form of texts. Different code points can stand for one text: a composite or its parts,
and marks in any order as long as their classes differ. The normal form has the marks in the order
of their classes, and composites wherever there are any.
-/
namespace TextMate.Url.Label

/-- Code points of syllables that are made of a consonant, a vowel and maybe another consonant. -/
def isSyllable (n : Nat) : Bool :=
  0xac00 ≤ n && n ≤ 0xd7a3

def syllableParts (n : Nat) : List Nat :=
  let index := n - 0xac00
  let start := [0x1100 + index / 588, 0x1161 + index % 588 / 28]
  if index % 28 = 0 then start else start ++ [0x11a7 + index % 28]

def partsIn : List (Nat × Nat × Nat) → Nat → List Nat
  | [], n => [n]
  | (whole, letter, mark) :: rest, n =>
    if n = whole then partsIn rest letter ++ [mark] else partsIn rest n

def parts (n : Nat) : List Nat :=
  if isSyllable n then syllableParts n else partsIn composites n

/-- The whole that two code points make. -/
def whole? (a b : Nat) : Option Nat :=
  if 0x1100 ≤ a ∧ a ≤ 0x1112 ∧ 0x1161 ≤ b ∧ b ≤ 0x1175 then
    some (0xac00 + (a - 0x1100) * 588 + (b - 0x1161) * 28)
  else if isSyllable a ∧ (a - 0xac00) % 28 = 0 ∧ 0x11a8 ≤ b ∧ b ≤ 0x11c2 then
    some (a + (b - 0x11a7))
  else (composites.find? (·.2 = (a, b))).map (·.1)

/-- A mark goes after those of a lower class. Code points come with their classes. -/
def insertMark (mark : Nat × Nat) : List (Nat × Nat) → List (Nat × Nat)
  | [] => [mark]
  | other :: rest =>
    if 0 < other.1 ∧ other.1 < mark.1 then other :: insertMark mark rest else mark :: other :: rest

/-- All parts, and the marks of each letter in the order of their classes. -/
def decomposed (points : List Nat) : List (Nat × Nat) :=
  ((points.flatMap parts).map fun n => (combiningClass n, n)).foldr insertMark []

/--
A code point joins the letter before it unless a mark is left between them that is not of a lower
class. The marks left so far come in reverse.
-/
def composeFrom (letter : Nat) (left : List (Nat × Nat)) : List (Nat × Nat) → List Nat
  | [] => letter :: left.reverse.map (·.2)
  | next :: rest =>
    let whole := if left.head?.all (·.1 < next.1) then whole? letter next.2 else none
    match whole with
    | some whole => composeFrom whole left rest
    | none =>
      if next.1 = 0 then letter :: left.reverse.map (·.2) ++ composeFrom next.2 [] rest
      else composeFrom letter (next :: left) rest

def normalForm (points : List Nat) : List Nat :=
  match decomposed points with
  | [] => []
  | first :: rest => composeFrom first.2 [] rest

def isNormal (text : List Char) : Bool :=
  let points := text.map Char.toNat
  normalForm points = points

end TextMate.Url.Label
