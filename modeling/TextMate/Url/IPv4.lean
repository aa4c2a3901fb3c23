import TextMate.Text.Pieces
import TextMate.Url.Percent

/-! IPv4 addresses, whose parts may be decimal, octal or hexadecimal. -/
namespace TextMate.Url.IPv4

def digitsValue? (base : Nat) (digits : List Char) : Option Nat :=
  digits.foldlM (fun n c => do
    let d ← hexValue? c
    if d < base then some (base * n + d) else none) 0

/-- `0x` means hexadecimal and may stand alone; another leading zero means octal. -/
def part? : List Char → Option Nat
  | [] => none
  | '0' :: 'x' :: digits | '0' :: 'X' :: digits => digitsValue? 16 digits
  | '0' :: d :: digits => digitsValue? 8 (d :: digits)
  | digits => digitsValue? 10 digits

/-- The parts of a host; one empty part at the end does not count. -/
def parts (host : List Char) : List (List Char) :=
  let all := Text.pieces '.' host
  if 1 < all.length ∧ all.getLast? = some [] then all.dropLast else all

/-- Whether a host has to be an address because of its last part. -/
def isClaimed (host : List Char) : Bool :=
  match (parts host).getLast? with
  | some last => (!last.isEmpty && last.all Char.isDigit) || (part? last).isSome
  | none => false

/-- The number of values of so many bytes. -/
def range : Nat → Nat
  | 0 => 1
  | bytes + 1 => 256 * range bytes

/-- The last number fills all bytes that the others leave. -/
def combine : List Nat → Option Nat
  | [] => none
  | numbers =>
    let leading := numbers.dropLast
    let last := numbers.getLastD 0
    let room := range (4 - leading.length)
    if numbers.length ≤ 4 ∧ leading.all (· < 256) ∧ last < room then
      some (leading.foldl (fun n b => 256 * n + b) 0 * room + last)
    else none

def parse? (host : List Char) : Option Nat := ((parts host).mapM part?).bind combine

/-- Four decimal numbers with points between them. -/
def text (address : Nat) : List Char :=
  let byte (i : Nat) := (toString (address / range i % 256)).toList
  byte 3 ++ '.' :: byte 2 ++ '.' :: byte 1 ++ '.' :: byte 0

end TextMate.Url.IPv4
