import TextMate.Text.Pieces

/-! Punycode, which writes a text of any characters in lower-case letters, digits and hyphens. -/
namespace TextMate.Url.Punycode

def digit (n : Nat) : Char := if n < 26 then .ofNat (97 + n) else .ofNat (22 + n)

def digitValue? (c : Char) : Option Nat :=
  if 'a' ≤ c ∧ c ≤ 'z' then some (c.toNat - 97)
  else if '0' ≤ c ∧ c ≤ '9' then some (c.toNat - 22)
  else none

/-- A digit below the threshold of its place ends a number. -/
def threshold (bias place : Nat) : Nat :=
  if place ≤ bias then 1 else if bias + 26 ≤ place then 26 else place - bias

theorem one_le_threshold (bias place : Nat) : 1 ≤ threshold bias place := by
  unfold threshold
  split
  · exact Nat.le_refl 1
  · split
    · omega
    · omega

/-- Weights of digits are below this bound. -/
def weightBound : Nat := 4294967296

/-- A number with the least digit first, and what follows it. -/
def readNumber (bias place weight : Nat) : List Char → Option (Nat × List Char)
  | [] => none
  | c :: rest => do
    let digit ← digitValue? c
    let t := threshold bias place
    if digit < t then return (digit * weight, rest)
    else if weightBound ≤ weight * (36 - t) then none
    else
      let (higher, rest) ← readNumber bias (place + 36) (weight * (36 - t)) rest
      return (digit * weight + higher, rest)

theorem length_of_readNumber {bias place weight n : Nat} {cs rest : List Char}
    (h : readNumber bias place weight cs = some (n, rest)) : rest.length < cs.length := by
  induction cs generalizing place weight n with
  | nil => simp [readNumber] at h
  | cons c cs ih =>
    obtain ⟨digit, _, h⟩ := Option.bind_eq_some_iff.1 h
    simp only at h
    split at h
    · simp only [Option.pure_def, Option.some.injEq, Prod.mk.injEq] at h
      simp [h.2]
    · split at h
      · cases h
      · obtain ⟨⟨higher, left⟩, hr, h⟩ := Option.bind_eq_some_iff.1 h
        simp only [Option.pure_def, Option.some.injEq, Prod.mk.injEq] at h
        have := ih (h.2 ▸ hr)
        simp only [List.length_cons]
        omega

/-- Large numbers raise the bias. -/
def biasFor (delta bias : Nat) : Nat :=
  if 455 < delta then biasFor (delta / 35) (bias + 36) else bias + 36 * delta / (delta + 38)
termination_by delta

/-- The bias after a number, in a text that has `size` characters then. -/
def adapt (delta size : Nat) (first : Bool) : Nat :=
  let damped := if first then delta / 700 else delta / 2
  biasFor (damped + damped / size) 0

/--
Each number tells how far the next character to insert is from the one before, counted through all
places of the text for one code point after another.
-/
def insertAll (codePoint place bias : Nat) (text : List Char) (cs : List Char) :
    Option (List Char) :=
  match cs with
  | [] => some text
  | c :: rest =>
    match h : readNumber bias 36 1 (c :: rest) with
    | none => none
    | some (delta, rest) =>
      let size := text.length + 1
      let next := codePoint + (place + delta) / size
      let index := (place + delta) % size
      if next.isValidChar then
        insertAll next (index + 1) (adapt delta size (place = 0))
          (text.insertIdx index (.ofNat next)) rest
      else none
termination_by cs.length
decreasing_by exact length_of_readNumber h

/-- The characters before the last hyphen, if there are any, stand for themselves. -/
def decode? (cs : List Char) : Option (List Char) :=
  match Text.cutAtLast '-' cs with
  | some (c :: plain, coded) => insertAll 128 0 72 (c :: plain) coded
  | _ => insertAll 128 0 72 [] cs

/-- The number that `readNumber` reads. -/
def writeNumber (bias place n : Nat) : List Char :=
  let t := threshold bias place
  if n < t then [digit n]
  else digit (t + (n - t) % (36 - t)) :: writeNumber bias (place + 36) ((n - t) / (36 - t))
termination_by n
decreasing_by
  have hone := one_le_threshold bias place
  have hquotient := Nat.div_le_self (n - threshold bias place) (36 - threshold bias place)
  omega

/-- Before the others of the same code point, and behind those of a smaller one. -/
def insertInOrder (e : Nat × Nat) : List (Nat × Nat) → List (Nat × Nat)
  | [] => [e]
  | other :: rest =>
    if e.1 ≤ other.1 then e :: other :: rest else other :: insertInOrder e rest

/--
The characters that are not plain, in the order in which they are inserted, each as its code point
and its place among the characters that are there by then. The text before comes in reverse.
-/
def insertions (before : List Char) : List Char → List (Nat × Nat)
  | [] => []
  | c :: rest =>
    let others := insertions (c :: before) rest
    if c.toNat < 0x80 then others
    else insertInOrder (c.toNat, before.countP (· ≤ c)) others

/-- Like `insertAll`, in a text that has `size` characters so far. -/
def writeAll (codePoint place bias size : Nat) : List (Nat × Nat) → List Char
  | [] => []
  | (next, index) :: rest =>
    let delta := (next - codePoint) * (size + 1) + index - place
    writeNumber bias 36 delta ++
      writeAll next (index + 1) (adapt delta (size + 1) (place = 0)) (size + 1) rest

/-- A hyphen follows the plain characters, if there are any. -/
def encode (text : List Char) : List Char :=
  let plain := text.filter (·.toNat < 0x80)
  (if plain.isEmpty then [] else plain ++ ['-']) ++
    writeAll 128 0 72 plain.length (insertions [] text)

end TextMate.Url.Punycode
