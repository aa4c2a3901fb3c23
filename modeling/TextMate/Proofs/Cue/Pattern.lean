import Mathlib

/-! The notation of patterns, as far as escapes are written in it, and what patterns match. -/
namespace TextMate.Cue.Pattern

/-- The characters that have a meaning of their own in a pattern. -/
def signs : List Char :=
  ['\\', '.', '[', ']', '(', ')', '\x7b', '\x7d', '*', '+', '?', '|', '^', '$']

/-- Letters and digits between brackets, one by one or as a range. -/
inductive Lists : List Char → Set Char → Prop
  | nil : Lists [] ∅
  | one {c : Char} {text : List Char} {set : Set Char} (hc : c.isAlphanum = true)
    (h : Lists text set) : Lists (c :: text) ({c} ∪ set)
  | range {a b : Char} {text : List Char} {set : Set Char} (ha : a.isAlphanum = true)
    (hb : b.isAlphanum = true) (hab : a ≤ b) (h : Lists text set) :
    Lists (a :: '-' :: b :: text) (Set.Icc a b ∪ set)

namespace Lists

variable {text : List Char} {set : Set Char} {c : Char}

theorem zero_le_of_isAlphanum (h : c.isAlphanum = true) : '0' ≤ c := by
  simp only [Char.isAlphanum, Char.isAlpha, Char.isUpper, Char.isLower, Char.isDigit,
    Bool.or_eq_true, Bool.and_eq_true, decide_eq_true_eq, UInt32.le_iff_toNat_le] at h
  rw [Char.le_def, UInt32.le_iff_toNat_le]
  simp at h ⊢
  omega

theorem zero_le (h : Lists text set) (hc : c ∈ set) : '0' ≤ c := by
  induction h with
  | nil => cases hc
  | one hd _ ih =>
    rcases hc with rfl | hc
    · exact zero_le_of_isAlphanum hd
    · exact ih hc
  | range ha _ _ _ ih =>
    rcases hc with ⟨hle, -⟩ | hc
    · exact (zero_le_of_isAlphanum ha).trans hle
    · exact ih hc

theorem nonempty (h : Lists text set) (hne : text ≠ []) : set.Nonempty := by
  cases h with
  | nil => exact absurd rfl hne
  | @one c _ _ _ _ => exact ⟨c, .inl rfl⟩
  | @range a _ _ _ _ _ hab _ => exact ⟨a, .inl ⟨le_rfl, hab⟩⟩

end Lists

/-- A number of times binds more tightly than a sequence, and a sequence than alternatives. -/
inductive Part where
  | atom
  | sequence
  | choice

/-- `Denotes part p L` says that the pattern `p` is such a part and matches the texts in `L`. -/
inductive Denotes : Part → String → Language Char → Prop
  | char {c : Char} (h : c ∉ signs) : Denotes .atom (.singleton c) {[c]}
  | escaped {c : Char} (h : c ∈ signs) : Denotes .atom ("\\" ++ .singleton c) {[c]}
  | any : Denotes .atom "." {w | ∃ c, c ≠ '\n' ∧ w = [c]}
  | oneOf {text : String} {set : Set Char} (h : Lists text.toList set) :
    Denotes .atom ("[" ++ text ++ "]") {w | ∃ c ∈ set, w = [c]}
  | group {p : String} {L : Language Char} (h : Denotes .choice p L) :
    Denotes .atom ("(?:" ++ p ++ ")") L
  | once {p : String} {L : Language Char} (h : Denotes .atom p L) : Denotes .sequence p L
  | times {p : String} {L : Language Char} (n : Nat) (h : Denotes .atom p L) :
    Denotes .sequence (p ++ "\x7b" ++ toString n ++ "\x7d") (L ^ n)
  | append {p q : String} {L M : Language Char} (h : Denotes .sequence p L)
    (h' : Denotes .sequence q M) : Denotes .sequence (p ++ q) (L * M)
  | only {p : String} {L : Language Char} (h : Denotes .sequence p L) : Denotes .choice p L
  | or {p q : String} {L M : Language Char} (h : Denotes .choice p L) (h' : Denotes .choice q M) :
    Denotes .choice (p ++ "|" ++ q) (L + M)

/-- There is a text in the language, and none that is empty or begins with the given character. -/
structure Avoids (c : Char) (L : Language Char) : Prop where
  inhabited : ∃ w, w ∈ L
  head : ∀ w ∈ L, ∃ d rest, w = d :: rest ∧ d ≠ c

namespace Avoids

variable {c d : Char} {L M : Language Char}

theorem letters {set : Set Char} (hin : d ∈ set) (hc : c ∉ set) :
    Avoids c {w | ∃ d ∈ set, w = [d]} where
  inhabited := ⟨[d], d, hin, rfl⟩
  head := by
    rintro w ⟨e, he, rfl⟩
    exact ⟨e, [], rfl, fun heq => hc (heq ▸ he)⟩

theorem singleton (h : d ≠ c) : Avoids c {[d]} where
  inhabited := ⟨[d], rfl⟩
  head := by
    rintro w rfl
    exact ⟨d, [], rfl, h⟩

theorem mul (hL : Avoids c L) (hM : ∃ w, w ∈ M) : Avoids c (L * M) where
  inhabited := by
    obtain ⟨u, hu⟩ := hL.inhabited
    obtain ⟨v, hv⟩ := hM
    exact ⟨u ++ v, Language.append_mem_mul hu hv⟩
  head := by
    intro w hw
    obtain ⟨u, hu, v, -, rfl⟩ := Language.mem_mul.1 hw
    obtain ⟨d, rest, rfl, hd⟩ := hL.head u hu
    exact ⟨d, rest ++ v, rfl, hd⟩

theorem add (hL : Avoids c L) (hM : Avoids c M) : Avoids c (L + M) where
  inhabited := hL.inhabited.imp fun _ hu => .inl hu
  head := by
    rintro w (hw | hw)
    · exact hL.head w hw
    · exact hM.head w hw

theorem pow (hL : Avoids c L) (n : Nat) : Avoids c (L ^ (n + 1)) := by
  induction n with
  | zero => simpa using hL
  | succ n ih =>
    rw [pow_succ]
    exact ih.mul hL.inhabited

end Avoids

end TextMate.Cue.Pattern
