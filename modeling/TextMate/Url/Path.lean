import TextMate.Url.Percent
import TextMate.Url.Scheme

/-! Paths of URLs. -/
namespace TextMate.Url

/-- Tabs and line ends, which do not count in a URL. -/
def isBreak (c : Char) : Bool := c ∈ ['\t', '\n', '\r']

def withoutBreaks (cs : List Char) : List Char := cs.filter (!isBreak ·)

inductive Path where
  /-- Percent-encoded segments, each behind a slash. -/
  | segments (list : List (List Char))
  /-- A text that is not divided. -/
  | plain (text : List Char)
deriving DecidableEq, Inhabited

namespace Path

def text : Path → List Char
  | .segments list => list.flatMap ('/' :: ·)
  | .plain text => text

def isSlash (kind : SchemeKind) (c : Char) : Bool := c = '/' || kind.isSpecial && c = '\\'

/-- What follows a slash and the breaks before it. -/
def behindSlash? (kind : SchemeKind) (cs : List Char) : Option (List Char) :=
  match cs.dropWhile isBreak with
  | c :: rest => if isSlash kind c then some rest else none
  | [] => none

/-- The texts between slashes. -/
def cut (kind : SchemeKind) : List Char → List (List Char)
  | [] => [[]]
  | c :: rest =>
    if isSlash kind c then [] :: cut kind rest
    else
      match cut kind rest with
      | [] => [[c]]
      | piece :: others => (c :: piece) :: others

/-- A point may be written as `%2e`. -/
def points : List Char → Option Nat
  | [] => some 0
  | '.' :: rest => (points rest).map (· + 1)
  | '%' :: '2' :: 'e' :: rest | '%' :: '2' :: 'E' :: rest => (points rest).map (· + 1)
  | _ => none

/-- A letter and a colon or a bar, with nothing or an end of a path after it. -/
def startsWithDrive : List Char → Bool
  | [letter, mark] => letter.isAlpha && (mark = ':' || mark = '|')
  | letter :: mark :: next :: _ =>
    letter.isAlpha && (mark = ':' || mark = '|') && next ∈ ['/', '\\', '?', '#']
  | _ => false

def isDrive (segment : List Char) : Bool := segment.length = 2 && startsWithDrive segment

/-- The segments so far, the last one first. -/
structure Trail where
  segments : List (List Char) := []
  /-- Whether the path starts at a drive that takes the place of a host. -/
  drive : Bool := false

namespace Trail

def push (t : Trail) (segment : List Char) : Trail := { t with segments := segment :: t.segments }

/-- One directory up, but never above a drive. -/
def up (t : Trail) : Trail :=
  match t.segments with
  | [] => t
  | last :: rest => if startsWithDrive last then t else { t with segments := rest }

/-- In a file URL the first segment may be a drive, which is then written with a colon. -/
def append (kind : SchemeKind) (t : Trail) (segment : List Char) : Trail :=
  if kind = .file ∧ t.segments.isEmpty ∧ isDrive segment then
    ⟨[segment.take 1 ++ [':']], true⟩
  else t.push segment

/-- A segment by itself; single and double points name the same directory and the one above. -/
def enter (kind : SchemeKind) (t : Trail) (final : Bool) (segment : List Char) : Trail :=
  match points segment with
  | some 2 => if final then t.up.push [] else t.up
  | some 1 => if final then t.push [] else t
  | _ => t.append kind segment

end Trail

/-- The drive and the rest of a piece that goes on with a break behind the colon of a drive. -/
def cutBehindDrive (piece : List Char) : Option (List Char × List Char) :=
  match withoutBreaks piece with
  | letter :: ':' :: c :: rest =>
    if letter.isAlpha ∧ ((piece.dropWhile (· ≠ ':')).drop 1).head?.any isBreak then
      some ([letter, ':'], c :: rest)
    else none
  | _ => none

/--
Walks along the pieces of a path. At the start of a file URL a break behind a drive counts as a
slash, and the points behind it have no meaning.
-/
def resolve (kind : SchemeKind) (t : Trail) : List (List Char) → Trail
  | [] => t
  | piece :: rest =>
    match if kind = .file ∧ t.segments.isEmpty then cutBehindDrive piece else none with
    | some (drive, piece) =>
      resolve kind ((t.push drive).push (percentEncode inPathSet piece)) rest
    | none =>
      resolve kind
        (t.enter kind rest.isEmpty (percentEncode inPathSet (withoutBreaks piece))) rest

/-- Without empty segments in front, but with at least one segment. -/
def dropEmpty : List (List Char) → List (List Char)
  | [] :: next :: rest => dropEmpty (next :: rest)
  | list => list

/-- The trail of a path whose first slash does not belong to the root. -/
def trailFromRoot (kind : SchemeKind) (cs : List Char) : Trail := resolve kind {} (cut kind cs)

/-- The trail of a path that starts at the root; a slash in front of it belongs to the root. -/
def trail (kind : SchemeKind) (cs : List Char) : Trail :=
  trailFromRoot kind ((behindSlash? kind cs).getD cs)

def resolved (kind : SchemeKind) (cs : List Char) : List (List Char) :=
  (trail kind cs).segments.reverse

end Path

end TextMate.Url
