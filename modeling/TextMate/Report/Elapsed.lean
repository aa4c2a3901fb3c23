/-! How long the stages of a run took. -/
namespace TextMate

/-- Decimal digits after the point, without the zeros at their end. -/
def fractionText (places value : Nat) : String :=
  let digits := (toString value).toList
  let padded := List.replicate (places - digits.length) '0' ++ digits
  match (padded.reverse.dropWhile (· = '0')).reverse with
  | [] => ""
  | kept => "." ++ .ofList kept

/-- A time in nanoseconds, in the largest unit that is not longer than it. -/
def durationText (nanoseconds : Nat) : String :=
  let inUnit (size places : Nat) (unit : String) :=
    toString (nanoseconds / size) ++ fractionText places (nanoseconds % size) ++ unit
  if 1000000000 ≤ nanoseconds then inUnit 1000000000 9 "s"
  else if 1000000 ≤ nanoseconds then inUnit 1000000 6 "ms"
  else if 1000 ≤ nanoseconds then inUnit 1000 3 "µs"
  else toString nanoseconds ++ "ns"

/-- Times in nanoseconds. -/
structure Elapsed where
  total : Nat := 0
  counting : Nat := 0
  compaction : Nat := 0
deriving DecidableEq, Inhabited

end TextMate
