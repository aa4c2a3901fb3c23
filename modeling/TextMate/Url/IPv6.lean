import TextMate.Text.Pieces
import TextMate.Url.Percent

/-! IPv6 addresses as eight numbers of sixteen bits. -/
namespace TextMate.Url.IPv6

/-- One to four hexadecimal digits. -/
def number? (digits : List Char) : Option Nat :=
  if digits.isEmpty || 4 < digits.length then none
  else digits.foldlM (fun n c => (hexValue? c).map (16 * n + ·)) 0

/-- A decimal number below 256 without needless zeros. -/
def byte? (digits : List Char) : Option Nat :=
  match digits with
  | [] => none
  | ['0'] => some 0
  | '0' :: _ => none
  | _ =>
    if digits.all Char.isDigit ∧ digits.length ≤ 3 then
      let n := digits.foldl (fun n c => 10 * n + (c.toNat - 48)) 0
      if n < 256 then some n else none
    else none

/-- Four decimal bytes stand for two numbers. -/
def embedded? (cs : List Char) : Option (List Nat) := do
  match ← (Text.pieces '.' cs).mapM byte? with
  | [a, b, c, d] => some [256 * a + b, 256 * c + d]
  | _ => none

/-- Numbers with colons between them; `final` tells that four decimal bytes may come last. -/
def numbers? (final : Bool) : List (List Char) → Option (List Nat)
  | [] => some []
  | [last] =>
    match number? last with
    | some n => some [n]
    | none => if final then embedded? last else none
  | piece :: rest => do
    let n ← number? piece
    let others ← numbers? final rest
    return n :: others

/-- No numbers at all if the text is empty. -/
def sequence? (final : Bool) (cs : List Char) : Option (List Nat) :=
  if cs.isEmpty then some [] else numbers? final (Text.pieces ':' cs)

/-- What stands before and after the first two colons in a row. -/
def cutAtGap : List Char → Option (List Char × List Char)
  | ':' :: ':' :: rest => some ([], rest)
  | c :: rest => (cutAtGap rest).map fun cut => (c :: cut.1, cut.2)
  | [] => none

/-- Two colons in a row stand for at least one zero. -/
def parse? (cs : List Char) : Option (List Nat) := do
  match cutAtGap cs with
  | none =>
    let all ← sequence? true cs
    if all.length = 8 then some all else none
  | some (before, after) =>
    let before ← sequence? false before
    let after ← sequence? true after
    if before.length + after.length < 8 then
      some (before ++ List.replicate (8 - before.length - after.length) 0 ++ after)
    else none

/-- The length of the run of zeros that a list starts with. -/
def leadingZeros : List Nat → Nat
  | 0 :: rest => leadingZeros rest + 1
  | _ => 0

/-- The length of the longest run of zeros. -/
def longestRun : List Nat → Nat
  | [] => 0
  | n :: rest => max (leadingZeros (n :: rest)) (longestRun rest)

def joined : List Nat → List Char
  | [] => []
  | [n] => Nat.toDigits 16 n
  | n :: rest => Nat.toDigits 16 n ++ ':' :: joined rest

/-- The numbers before the first run of zeros of the given length, and those after it. -/
def cutRun (length : Nat) : List Nat → List Nat × List Nat
  | [] => ([], [])
  | n :: rest =>
    if leadingZeros (n :: rest) = length then ([], (n :: rest).drop length)
    else ((cutRun length rest).map (n :: ·) id)

/-- The first of the longest runs of two or more zeros is left out. -/
def text (address : List Nat) : List Char :=
  let run := longestRun address
  if 2 ≤ run then
    let (before, after) := cutRun run address
    joined before ++ ':' :: ':' :: joined after
  else joined address

end TextMate.Url.IPv6
