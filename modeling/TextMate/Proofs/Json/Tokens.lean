import Mathlib
import TextMate.Json

/-! The tokens of a JSON text: how each may be written, and how they are read. -/
namespace TextMate.Json

/-- What stands between values. -/
inductive Mark where
  | listStart
  | listEnd
  | objectStart
  | objectEnd
  | colon
  | comma
deriving DecidableEq

/-- A value that is one token. A number is kept as it is written. -/
inductive Scalar where
  | null
  | boolean (value : Bool)
  | number (literal : List Char)
  | text (value : String)
deriving DecidableEq

inductive Token where
  | mark (mark : Mark)
  | scalar (value : Scalar)
deriving DecidableEq

def Mark.ofChar? (c : Char) : Option Mark :=
  if c = '[' then some .listStart
  else if c = ']' then some .listEnd
  else if c = '\x7b' then some .objectStart
  else if c = '\x7d' then some .objectEnd
  else if c = ':' then some .colon
  else if c = ',' then some .comma
  else none

def isBlank (c : Char) : Bool := c = ' ' || c = '\t' || c = '\n' || c = '\r'

/-- The characters of words, which are neither blank nor marks nor quotes. -/
def inWord (c : Char) : Bool := !(isBlank c || (Mark.ofChar? c).isSome || c = '"')

section Numbers

def isDigits (cs : List Char) : Bool := !cs.isEmpty && cs.all Char.isDigit

/-- Without a zero in front of other digits. -/
def isInteger : List Char → Bool
  | '0' :: rest => rest.isEmpty
  | cs => isDigits cs

def isFraction : List Char → Bool
  | [] => true
  | '.' :: digits => isDigits digits
  | _ => false

def isExponent : List Char → Bool
  | [] => true
  | e :: '+' :: digits => (e = 'e' || e = 'E') && isDigits digits
  | e :: '-' :: digits => (e = 'e' || e = 'E') && isDigits digits
  | e :: digits => (e = 'e' || e = 'E') && isDigits digits

def withoutSign : List Char → List Char
  | '-' :: rest => rest
  | cs => cs

/-- An integer, then a fraction and an exponent, both of which may be absent. -/
def isNumber (cs : List Char) : Bool :=
  let unsigned := withoutSign cs
  let rest := unsigned.dropWhile Char.isDigit
  isInteger (unsigned.takeWhile Char.isDigit) &&
    isFraction (rest.takeWhile fun c => !(c = 'e' || c = 'E')) &&
    isExponent (rest.dropWhile fun c => !(c = 'e' || c = 'E'))

example : isNumber ['-', '0', '.', '5', 'e', '+', '1', '0'] = true := by decide

example : isNumber ['0', '1'] = false ∧ isNumber ['1', '.'] = false ∧ isNumber ['-'] = false := by
  decide

/-- What a word without quotes stands for: a literal name or a number. -/
def Scalar.ofWord? (word : List Char) : Option Scalar :=
  if word = ['n', 'u', 'l', 'l'] then some .null
  else if word = ['t', 'r', 'u', 'e'] then some (.boolean true)
  else if word = ['f', 'a', 'l', 's', 'e'] then some (.boolean false)
  else if isNumber word then some (.number word)
  else none

end Numbers

section Characters

def hexValue? (c : Char) : Option Nat :=
  if '0' ≤ c ∧ c ≤ '9' then some (c.toNat - 48)
  else if 'a' ≤ c ∧ c ≤ 'f' then some (c.toNat - 87)
  else if 'A' ≤ c ∧ c ≤ 'F' then some (c.toNat - 55)
  else none

/-- Four hexadecimal digits after a backslash and a `u`, and the text after them. -/
def unit? : List Char → Option (Nat × List Char)
  | '\\' :: 'u' :: a :: b :: c :: d :: rest =>
    match hexValue? a, hexValue? b, hexValue? c, hexValue? d with
    | some a, some b, some c, some d => some (((a * 16 + b) * 16 + c) * 16 + d, rest)
    | _, _, _, _ => none
  | _ => none

/-- The character that is written as a backslash and the given one. -/
def unescape? (c : Char) : Option Char :=
  if c = '"' ∨ c = '\\' ∨ c = '/' then some c
  else if c = 'b' then some '\x08'
  else if c = 't' then some '\t'
  else if c = 'n' then some '\n'
  else if c = 'f' then some '\x0c'
  else if c = 'r' then some '\r'
  else none

/-- The halves of a character that is written as two units. -/
def IsPair (high low : Nat) : Prop :=
  (0xd800 ≤ high ∧ high < 0xdc00) ∧ 0xdc00 ≤ low ∧ low < 0xe000

instance (high low : Nat) : Decidable (IsPair high low) := inferInstanceAs (Decidable (_ ∧ _))

def joinPair (high low : Nat) : Nat := 0x10000 + (high - 0xd800) * 0x400 + (low - 0xdc00)

/-- The ways to write a character between quotes. -/
inductive Spelling : Char → List Char → Prop
  | plain {c : Char} (hc : 32 ≤ c.toNat) (hquote : c ≠ '"') (hescape : c ≠ '\\') : Spelling c [c]
  | escaped {c e : Char} (h : unescape? e = some c) : Spelling c ['\\', e]
  | unit {c : Char} {digits : List Char} (h : unit? digits = some (c.toNat, [])) :
    Spelling c digits
  | pair {c : Char} {high low : Nat} {digits digits' : List Char}
    (hhigh : unit? digits = some (high, [])) (hlow : unit? digits' = some (low, []))
    (hpair : IsPair high low) (hc : c.toNat = joinPair high low) : Spelling c (digits ++ digits')

/-- The texts that stand for some characters between quotes. -/
inductive Body : List Char → List Char → Prop
  | nil : Body [] []
  | cons {c : Char} {s piece cs : List Char} (hc : Spelling c piece) (hs : Body s cs) :
    Body (c :: s) (piece ++ cs)

/-- A character without units, and the text after it. -/
def plainChar? : List Char → Option (Char × List Char)
  | '\\' :: e :: rest => (unescape? e).map (·, rest)
  | c :: rest => if 32 ≤ c.toNat ∧ c ≠ '"' ∧ c ≠ '\\' then some (c, rest) else none
  | [] => none

/-- The first character of a text between quotes, and the text after it. -/
def char? (cs : List Char) : Option (Char × List Char) :=
  match unit? cs with
  | none => plainChar? cs
  | some (n, rest) =>
    if n.isValidChar then some (.ofNat n, rest)
    else
      match unit? rest with
      | none => none
      | some (m, rest) => if IsPair n m then some (.ofNat (joinPair n m), rest) else none

theorem unit?_append {digits : List Char} {n : Nat} (h : unit? digits = some (n, []))
    (rest : List Char) : unit? (digits ++ rest) = some (n, rest) := by
  unfold unit? at h
  split at h
  · split at h
    · rename_i ha hb hc hd
      cases h
      simp only [List.cons_append, List.nil_append, unit?, ha, hb, hc, hd]
    · cases h
  · cases h

theorem exists_of_unit? {cs rest : List Char} {n : Nat} (h : unit? cs = some (n, rest)) :
    ∃ digits, unit? digits = some (n, []) ∧ cs = digits ++ rest := by
  unfold unit? at h
  split at h
  · rename_i a b c d rest
    split at h
    · rename_i ha hb hc hd
      cases h
      exact ⟨['\\', 'u', a, b, c, d], by simp only [unit?, ha, hb, hc, hd], rfl⟩
    · cases h
  · cases h

theorem unit?_eq_none {c : Char} {rest : List Char} (h : c ≠ '\\') :
    unit? (c :: rest) = none := by
  unfold unit?
  split
  · rename_i heq
    exact absurd (List.cons.inj heq).1 h
  · rfl

theorem unit?_escape {e : Char} {rest : List Char} (h : e ≠ 'u') :
    unit? ('\\' :: e :: rest) = none := by
  unfold unit?
  split
  · rename_i heq
    exact absurd (List.cons.inj (List.cons.inj heq).2).1 h
  · rfl

theorem toNat_ofNat_joinPair {high low : Nat} (h : IsPair high low) :
    (Char.ofNat (joinPair high low)).toNat = joinPair high low := by
  rw [Char.toNat_ofNat, if_pos]
  unfold IsPair at h
  unfold joinPair Nat.isValidChar
  omega

theorem not_isValidChar_of_isPair {high low : Nat} (h : IsPair high low) :
    ¬ high.isValidChar := by
  unfold IsPair at h
  unfold Nat.isValidChar
  omega

theorem unescape?_u : unescape? 'u' = none := by decide

theorem plainChar?_eq_some_iff {cs rest : List Char} {c : Char} :
    plainChar? cs = some (c, rest) ↔
      (∃ e, unescape? e = some c ∧ cs = '\\' :: e :: rest) ∨
      (32 ≤ c.toNat ∧ c ≠ '"' ∧ c ≠ '\\') ∧ cs = c :: rest := by
  constructor
  · intro h
    unfold plainChar? at h
    split at h
    · rename_i e rest'
      obtain ⟨c', he, heq⟩ := Option.map_eq_some_iff.1 h
      cases heq
      exact .inl ⟨e, he, rfl⟩
    · rename_i c' rest' _
      split_ifs at h with hplain
      cases h
      exact .inr ⟨hplain, rfl⟩
    · cases h
  · rintro (⟨e, he, rfl⟩ | ⟨hplain, rfl⟩)
    · simp only [plainChar?, he, Option.map_some]
    · unfold plainChar?
      split
      · rename_i heq
        exact absurd (List.cons.inj heq).1 hplain.2.2
      · rename_i heq
        cases heq
        exact if_pos hplain
      · rename_i heq
        cases heq

/-- Reading a character finds one of its spellings. -/
theorem exists_spelling {cs rest : List Char} {c : Char} (h : char? cs = some (c, rest)) :
    ∃ piece, Spelling c piece ∧ cs = piece ++ rest := by
  unfold char? at h
  split at h
  · rcases plainChar?_eq_some_iff.1 h with ⟨e, he, rfl⟩ | ⟨hplain, rfl⟩
    · exact ⟨['\\', e], .escaped he, rfl⟩
    · exact ⟨[c], .plain hplain.1 hplain.2.1 hplain.2.2, rfl⟩
  · rename_i n rest' hunit
    obtain ⟨digits, hdigits, rfl⟩ := exists_of_unit? hunit
    by_cases hvalid : n.isValidChar
    · rw [if_pos hvalid] at h
      cases h
      refine ⟨digits, .unit ?_, rfl⟩
      rwa [Char.toNat_ofNat, if_pos hvalid]
    · rw [if_neg hvalid] at h
      split at h
      · cases h
      · rename_i m rest'' hunit'
        obtain ⟨digits', hdigits', rfl⟩ := exists_of_unit? hunit'
        by_cases hpair : IsPair n m
        · rw [if_pos hpair, Option.some.injEq, Prod.mk.injEq] at h
          obtain ⟨rfl, rfl⟩ := h
          exact ⟨digits ++ digits', .pair hdigits hdigits' hpair (toNat_ofNat_joinPair hpair),
            (List.append_assoc _ _ _).symm⟩
        · rw [if_neg hpair] at h
          cases h

/-- Each spelling of a character is read. -/
theorem char?_of_spelling {c : Char} {piece : List Char} (h : Spelling c piece)
    (rest : List Char) : char? (piece ++ rest) = some (c, rest) := by
  unfold char?
  cases h with
  | plain hc hquote hescape =>
    simp only [List.singleton_append, unit?_eq_none hescape]
    exact plainChar?_eq_some_iff.2 (.inr ⟨⟨hc, hquote, hescape⟩, rfl⟩)
  | @escaped e h =>
    have he : e ≠ 'u' := by
      rintro rfl
      rw [unescape?_u] at h
      cases h
    simp only [List.cons_append, List.nil_append, unit?_escape he]
    exact plainChar?_eq_some_iff.2 (.inl ⟨e, h, rfl⟩)
  | unit h =>
    have hvalid : c.toNat.isValidChar := c.valid
    simp only [unit?_append h, if_pos hvalid, Char.ofNat_toNat]
  | pair hhigh hlow hpair hc =>
    simp only [List.append_assoc, unit?_append hhigh, unit?_append hlow, if_pos hpair,
      if_neg (not_isValidChar_of_isPair hpair), ← hc, Char.ofNat_toNat]

theorem Spelling.ne_nil {c : Char} {piece : List Char} (h : Spelling c piece) : piece ≠ [] := by
  cases h with
  | plain hc hquote hescape => exact nofun
  | escaped h => exact nofun
  | unit h =>
    rintro rfl
    cases h
  | pair hhigh hlow hpair hc =>
    intro hnil
    rw [(List.append_eq_nil_iff.1 hnil).1] at hhigh
    cases hhigh

theorem length_lt_of_char? {cs rest : List Char} {c : Char} (h : char? cs = some (c, rest)) :
    rest.length < cs.length := by
  obtain ⟨piece, hpiece, rfl⟩ := exists_spelling h
  have hpos := List.length_pos_iff.2 hpiece.ne_nil
  rw [List.length_append]
  omega

/-- The characters up to a closing quote, and the text after it. -/
def text? (cs : List Char) : Option (List Char × List Char) :=
  match _ : char? cs with
  | some (c, rest) => (text? rest).map fun p => (c :: p.1, p.2)
  | none =>
    match cs with
    | '"' :: rest => some ([], rest)
    | _ => none
termination_by cs.length
decreasing_by exact length_lt_of_char? ‹_›

theorem text?_quote (rest : List Char) : text? ('"' :: rest) = some ([], rest) := by
  have hnone : char? ('"' :: rest) = none := by
    unfold char?
    rw [unit?_eq_none (by decide)]
    rfl
  rw [text?]
  split
  · rename_i h
    rw [hnone] at h
    cases h
  · rfl

theorem text?_of_char? {cs rest : List Char} {c : Char} (h : char? cs = some (c, rest)) :
    text? cs = (text? rest).map fun p => (c :: p.1, p.2) := by
  rw [text?]
  split
  · rename_i h'
    rw [h] at h'
    cases h'
    rfl
  · rename_i h'
    rw [h] at h'
    cases h'

/-- Reading up to a closing quote finds what the text between the quotes stands for. -/
theorem text?_eq_some_iff {cs s rest : List Char} :
    text? cs = some (s, rest) ↔ ∃ body, Body s body ∧ cs = body ++ '"' :: rest := by
  constructor
  · intro h
    fun_induction text? cs generalizing s rest with
    | case1 cs c rest' hc ih =>
      obtain ⟨⟨s', rest''⟩, hs', heq⟩ := Option.map_eq_some_iff.1 h
      cases heq
      obtain ⟨piece, hpiece, rfl⟩ := exists_spelling hc
      obtain ⟨body, hbody, rfl⟩ := ih hs'
      exact ⟨piece ++ body, .cons hpiece hbody, (List.append_assoc _ _ _).symm⟩
    | case2 rest' hc =>
      cases h
      exact ⟨[], .nil, rfl⟩
    | case3 cs hne hc => cases h
  · rintro ⟨body, hbody, rfl⟩
    induction hbody with
    | nil => exact text?_quote rest
    | cons hc hs ih =>
      rw [List.append_assoc, text?_of_char? (char?_of_spelling hc _), ih]
      rfl

end Characters

section Words

/-- The characters of numbers. -/
def inNumber (c : Char) : Bool := c.isDigit || c ∈ ['-', '+', '.', 'e', 'E']

theorem inNumber_of_isDigits {cs : List Char} (h : isDigits cs = true) : ∀ c ∈ cs, inNumber c := by
  intro c hc
  have hdigit := List.all_eq_true.1 (Bool.and_eq_true_iff.1 h).2 c hc
  rw [inNumber, hdigit, Bool.true_or]

theorem inNumber_of_isFraction {cs : List Char} (h : isFraction cs = true) :
    ∀ c ∈ cs, inNumber c := by
  unfold isFraction at h
  split at h
  · exact nofun
  · exact List.forall_mem_cons.2 ⟨by decide, inNumber_of_isDigits h⟩
  · cases h

theorem inNumber_of_isExponent {cs : List Char} (h : isExponent cs = true) :
    ∀ c ∈ cs, inNumber c := by
  have hletter : ∀ {e : Char}, (e = 'e' || e = 'E') = true → inNumber e := by
    intro e he
    rw [Bool.or_eq_true, decide_eq_true_eq, decide_eq_true_eq] at he
    rcases he with rfl | rfl <;> decide
  unfold isExponent at h
  split at h
  · exact nofun
  all_goals obtain ⟨he, hdigits⟩ := Bool.and_eq_true_iff.1 h
  · exact List.forall_mem_cons.2 ⟨hletter he,
      List.forall_mem_cons.2 ⟨by decide, inNumber_of_isDigits hdigits⟩⟩
  · exact List.forall_mem_cons.2 ⟨hletter he,
      List.forall_mem_cons.2 ⟨by decide, inNumber_of_isDigits hdigits⟩⟩
  · exact List.forall_mem_cons.2 ⟨hletter he, inNumber_of_isDigits hdigits⟩

theorem inNumber_of_withoutSign {cs : List Char} (h : ∀ c ∈ withoutSign cs, inNumber c) :
    ∀ c ∈ cs, inNumber c := by
  unfold withoutSign at h
  split at h
  · exact List.forall_mem_cons.2 ⟨by decide, h⟩
  · exact h

theorem inNumber_of_isNumber {cs : List Char} (h : isNumber cs = true) : ∀ c ∈ cs, inNumber c := by
  obtain ⟨hfront, hexponent⟩ := Bool.and_eq_true_iff.1 h
  obtain ⟨-, hfraction⟩ := Bool.and_eq_true_iff.1 hfront
  refine inNumber_of_withoutSign fun c hc => ?_
  rw [← List.takeWhile_append_dropWhile (p := Char.isDigit) (l := withoutSign cs),
    List.mem_append] at hc
  rcases hc with hc | hc
  · rw [inNumber, List.mem_takeWhile_imp hc, Bool.true_or]
  · rw [← List.takeWhile_append_dropWhile (p := fun c => !(c = 'e' || c = 'E'))
      (l := (withoutSign cs).dropWhile Char.isDigit), List.mem_append] at hc
    rcases hc with hc | hc
    · exact inNumber_of_isFraction hfraction c hc
    · exact inNumber_of_isExponent hexponent c hc

theorem inWord_iff {c : Char} :
    inWord c = true ↔ isBlank c = false ∧ Mark.ofChar? c = none ∧ c ≠ '"' := by
  simp [inWord, and_assoc]

theorem inWord_of_inNumber {c : Char} (h : inNumber c = true) : inWord c = true := by
  by_contra hout
  have hmem : c ∈ [' ', '\t', '\n', '\r', '[', ']', '\x7b', '\x7d', ':', ',', '"'] := by
    rw [inWord_iff] at hout
    unfold isBlank Mark.ofChar? at hout
    split_ifs at hout <;> simp_all
    tauto
  revert h
  fin_cases hmem <;> decide

theorem inWord_of_ofWord? {word : List Char} {s : Scalar} (h : Scalar.ofWord? word = some s) :
    word ≠ [] ∧ ∀ c ∈ word, inWord c = true := by
  unfold Scalar.ofWord? at h
  split_ifs at h with hnull htrue hfalse hnumber
  · rw [hnull]
    exact ⟨nofun, List.all_eq_true.1 (by decide)⟩
  · rw [htrue]
    exact ⟨nofun, List.all_eq_true.1 (by decide)⟩
  · rw [hfalse]
    exact ⟨nofun, List.all_eq_true.1 (by decide)⟩
  · refine ⟨?_, fun c hc => inWord_of_inNumber (inNumber_of_isNumber hnumber c hc)⟩
    rintro rfl
    revert hnumber
    decide

end Words

section Reading

/-- The texts that consist of the tokens, with blanks anywhere between them. -/
inductive Spells : List Token → List Char → Prop
  | nil : Spells [] []
  | blank {c : Char} {ts : List Token} {cs : List Char} (hc : isBlank c = true)
    (h : Spells ts cs) : Spells ts (c :: cs)
  | mark {c : Char} {m : Mark} {ts : List Token} {cs : List Char}
    (hc : Mark.ofChar? c = some m) (h : Spells ts cs) : Spells (.mark m :: ts) (c :: cs)
  | text {s : String} {body cs : List Char} {ts : List Token} (hs : Body s.toList body)
    (h : Spells ts cs) : Spells (.scalar (.text s) :: ts) ('"' :: body ++ '"' :: cs)
  /-- A word ends where the text does or before a blank or a mark. -/
  | word {s : Scalar} {word cs : List Char} {ts : List Token}
    (hs : Scalar.ofWord? word = some s) (hend : ∀ c ∈ cs.head?, inWord c = false)
    (h : Spells ts cs) : Spells (.scalar s :: ts) (word ++ cs)

theorem length_lt_of_text? {cs s rest : List Char} (h : text? cs = some (s, rest)) :
    rest.length < cs.length := by
  obtain ⟨body, -, rfl⟩ := text?_eq_some_iff.1 h
  rw [List.length_append, List.length_cons]
  omega

/-- The tokens of a text. -/
def tokens? (cs : List Char) : Option (List Token) :=
  match cs with
  | [] => some []
  | c :: rest =>
    if isBlank c then tokens? rest
    else
      match Mark.ofChar? c with
      | some m => (tokens? rest).map (.mark m :: ·)
      | none =>
        if c = '"' then
          match _ : text? rest with
          | some (s, rest') => (tokens? rest').map (.scalar (.text (.ofList s)) :: ·)
          | none => none
        else
          match Scalar.ofWord? (c :: rest.takeWhile inWord) with
          | some s => (tokens? (rest.dropWhile inWord)).map (.scalar s :: ·)
          | none => none
termination_by cs.length
decreasing_by
  · exact Nat.lt_succ_self _
  · exact Nat.lt_succ_self _
  · exact Nat.lt_succ_of_lt (length_lt_of_text? ‹_›)
  · exact Nat.lt_succ_of_le (List.length_dropWhile_le _ _)

theorem tokens?_blank {c : Char} (hc : isBlank c = true) (rest : List Char) :
    tokens? (c :: rest) = tokens? rest := by
  rw [tokens?, if_pos hc]

theorem not_isBlank_of_ofChar? {c : Char} {m : Mark} (hc : Mark.ofChar? c = some m) :
    isBlank c = false := by
  unfold Mark.ofChar? at hc
  split_ifs at hc with h h h h h h <;> rw [h] <;> rfl

theorem tokens?_mark {c : Char} {m : Mark} (hc : Mark.ofChar? c = some m) (rest : List Char) :
    tokens? (c :: rest) = (tokens? rest).map (.mark m :: ·) := by
  rw [tokens?, if_neg (by simp [not_isBlank_of_ofChar? hc])]
  simp only [hc]

theorem tokens?_quote {s cs rest : List Char} (hs : text? cs = some (s, rest)) :
    tokens? ('"' :: cs) = (tokens? rest).map (.scalar (.text (.ofList s)) :: ·) := by
  rw [tokens?, if_neg (by decide)]
  simp only [show Mark.ofChar? '"' = none from rfl, if_true]
  split
  · rename_i h
    rw [hs] at h
    cases h
    rfl
  · rename_i h
    rw [hs] at h
    cases h

theorem tokens?_word {word cs : List Char} {s : Scalar} (hs : Scalar.ofWord? word = some s)
    (hend : ∀ c ∈ cs.head?, inWord c = false) :
    tokens? (word ++ cs) = (tokens? cs).map (.scalar s :: ·) := by
  obtain ⟨hne, hword⟩ := inWord_of_ofWord? hs
  cases word with
  | nil => exact absurd rfl hne
  | cons c word =>
    obtain ⟨hin, hword⟩ := List.forall_mem_cons.1 hword
    obtain ⟨hblank, hmark, hquote⟩ := inWord_iff.1 hin
    have htake : (word ++ cs).takeWhile inWord = word ∧ (word ++ cs).dropWhile inWord = cs := by
      rw [List.takeWhile_append_of_pos hword, List.dropWhile_append_of_pos hword]
      cases cs with
      | nil => simp
      | cons d rest => simp [hend d rfl]
    rw [List.cons_append, tokens?, if_neg (by simp [hblank])]
    simp only [hmark, if_neg hquote, htake, hs]

/-- Reading finds the tokens of a text. -/
theorem tokens?_eq_some_iff {cs : List Char} {ts : List Token} :
    tokens? cs = some ts ↔ Spells ts cs := by
  constructor
  · intro h
    fun_induction tokens? cs generalizing ts with
    | case1 =>
      cases h
      exact .nil
    | case2 c rest hblank ih => exact .blank hblank (ih h)
    | case3 c rest hblank m hmark ih =>
      obtain ⟨ts', hts', rfl⟩ := Option.map_eq_some_iff.1 h
      exact .mark hmark (ih hts')
    | case4 rest s rest' hs hblank hmark ih =>
      obtain ⟨ts', hts', rfl⟩ := Option.map_eq_some_iff.1 h
      obtain ⟨body, hbody, rfl⟩ := text?_eq_some_iff.1 hs
      exact .text (by rwa [String.toList_ofList]) (ih hts')
    | case5 => cases h
    | case6 c rest hblank hmark hquote s hs ih =>
      obtain ⟨ts', hts', rfl⟩ := Option.map_eq_some_iff.1 h
      have hend : ∀ d ∈ (rest.dropWhile inWord).head?, inWord d = false := by
        intro d hd
        have hnot := List.head?_dropWhile_not inWord rest
        rwa [Option.mem_def.1 hd] at hnot
      have hspells := Spells.word hs hend (ih hts')
      rwa [List.cons_append, List.takeWhile_append_dropWhile] at hspells
    | case7 => cases h
  · intro h
    induction h with
    | nil => rw [tokens?]
    | blank hc h ih => rw [tokens?_blank hc, ih]
    | mark hc h ih =>
      rw [tokens?_mark hc, ih]
      rfl
    | @text s body cs ts hs h ih =>
      have htext : text? (body ++ '"' :: cs) = some (s.toList, cs) :=
        text?_eq_some_iff.2 ⟨body, hs, rfl⟩
      rw [List.cons_append, tokens?_quote htext, ih, String.ofList_toList]
      rfl
    | word hs hend h ih =>
      rw [tokens?_word hs hend, ih]
      rfl

end Reading

end TextMate.Json
