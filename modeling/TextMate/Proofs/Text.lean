import Mathlib
import TextMate.Text.Blank
import TextMate.Text.Pieces

/-!
Texts cut at separators, without white space at their ends, and line by line, and the digits of a
number.
-/
namespace TextMate.Text

section Cutting

variable {separator : Char} {cs before after piece : List Char}

theorem pieces_eq_splitOn (separator : Char) (cs : List Char) :
    pieces separator cs = cs.splitOn separator := by
  induction cs with
  | nil => rfl
  | cons c rest ih =>
    have hne : rest.splitOn separator ≠ [] := List.splitOn_ne_nil _ _
    simp only [pieces, ih, List.splitOn_cons_eq_if_modifyHead, beq_iff_eq]
    cases h : rest.splitOn separator with
    | nil => exact absurd h hne
    | cons piece others => rfl

theorem pieces_cons (separator c : Char) (cs : List Char) :
    pieces separator (c :: cs) =
      if c = separator then [] :: pieces separator cs
      else (pieces separator cs).modifyHead (c :: ·) := by
  simp only [pieces_eq_splitOn, List.splitOn_cons_eq_if_modifyHead, beq_iff_eq]

theorem pieces_append (separator : Char) (before after : List Char) :
    pieces separator (before ++ separator :: after) =
      pieces separator before ++ pieces separator after := by
  simp only [pieces_eq_splitOn, List.splitOn_append_cons_self]

theorem pieces_eq_singleton (h : separator ∉ cs) : pieces separator cs = [cs] := by
  rw [pieces_eq_splitOn, List.splitOn_eq_singleton h]

/-- Where a text is split there is nothing left of what it is split at. -/
theorem eq_false_of_mem_splitOnP {p : Char → Bool} (h : piece ∈ cs.splitOnP p) :
    ∀ c ∈ piece, p c = false := by
  induction cs generalizing piece with
  | nil =>
    obtain rfl : piece = [] := by simpa using h
    simp
  | cons c rest ih =>
    rw [List.splitOnP_cons_eq_if_modifyHead] at h
    split at h
    · rcases List.mem_cons.1 h with rfl | h
      · simp
      · exact ih h
    · rename_i hc
      cases hpieces : rest.splitOnP p with
      | nil => exact absurd hpieces (List.splitOnP_ne_nil p rest)
      | cons first others =>
        rw [hpieces] at h ih
        rcases List.mem_cons.1 h with rfl | h
        · exact List.forall_mem_cons.2 ⟨by simpa using hc, ih List.mem_cons_self⟩
        · exact ih (List.mem_cons_of_mem first h)

theorem not_mem_of_mem_pieces (h : piece ∈ pieces separator cs) : separator ∉ piece := by
  rw [pieces_eq_splitOn, List.splitOn_eq_splitOnP] at h
  intro hmem
  simpa using eq_false_of_mem_splitOnP h separator hmem

theorem cutAt_append (h : separator ∉ before) (after : List Char) :
    cutAt separator (before ++ separator :: after) = some (before, after) := by
  induction before with
  | nil => simp [cutAt]
  | cons c rest ih =>
    obtain ⟨hc, hrest⟩ := not_or.1 (mt List.mem_cons.2 h)
    simp only [List.cons_append, cutAt, if_neg (Ne.symm hc), ih hrest, Option.map_some]

theorem cutAt_eq_none_iff : cutAt separator cs = none ↔ separator ∉ cs := by
  induction cs with
  | nil => simp [cutAt]
  | cons c rest ih =>
    by_cases hc : c = separator
    · simp [cutAt, hc]
    · simp [cutAt, hc, ih, Ne.symm hc]

/-- The cut is at the first separator. -/
theorem cutAt_eq_some_iff :
    cutAt separator cs = some (before, after) ↔
      cs = before ++ separator :: after ∧ separator ∉ before := by
  constructor
  · intro h
    have hmem : separator ∈ cs := by
      by_contra hmem
      rw [cutAt_eq_none_iff.2 hmem] at h
      cases h
    obtain ⟨first, rest, rfl, hfirst⟩ := List.eq_append_cons_of_mem hmem
    rw [cutAt_append hfirst] at h
    cases h
    exact ⟨rfl, hfirst⟩
  · rintro ⟨rfl, hbefore⟩
    exact cutAt_append hbefore after

/-- A span ends at the first character that is not of its class. -/
theorem span_append {p : Char → Bool} {c : Char} (hbefore : ∀ b ∈ before, p b = true)
    (hc : p c = false) : (before ++ c :: after).span p = (before, c :: after) := by
  have hnot : ¬ p c = true := by simp [hc]
  rw [List.span_eq_takeWhile_dropWhile, List.takeWhile_append_of_pos hbefore,
    List.dropWhile_append_of_pos hbefore, List.takeWhile_cons_of_neg hnot,
    List.dropWhile_cons_of_neg hnot, List.append_nil]

end Cutting

theorem isDigit_of_mem_toString {n : Nat} {c : Char} (h : c ∈ (toString n).toList) :
    c.isDigit = true := by
  rw [Nat.toString_eq_repr, Nat.toList_repr] at h
  exact Nat.isDigit_of_mem_toDigits (by decide) (by decide) h

section Stripping

variable {p : Char → Bool} {c : Char} {cs : List Char}

/-- No character of the class stands at either end. -/
structure Stripped (p : Char → Bool) (cs : List Char) : Prop where
  head : ∀ c ∈ cs.head?, p c = false
  last : ∀ c ∈ cs.getLast?, p c = false

abbrev Trimmed (cs : List Char) : Prop := Stripped isBlank cs

theorem strip_eq (p : Char → Bool) (cs : List Char) :
    strip p cs = (cs.dropWhile p).rdropWhile p := rfl

theorem head?_dropWhile (p : Char → Bool) (cs : List Char) :
    ∀ c ∈ (cs.dropWhile p).head?, p c = false := by
  intro c hc
  have hnot := List.head?_dropWhile_not p cs
  rwa [hc] at hnot

/-- What is dropped from the end does not reach the front. -/
theorem head?_strip (p : Char → Bool) (cs : List Char) :
    (strip p cs).head? = (cs.dropWhile p).head? := by
  have hhead := head?_dropWhile p cs
  rw [strip_eq]
  cases h : cs.dropWhile p with
  | nil => rfl
  | cons c rest =>
    rw [h] at hhead
    have hprefix := List.rdropWhile_prefix p (c :: rest)
    cases hstrip : (c :: rest).rdropWhile p with
    | nil =>
      have hall := List.rdropWhile_eq_nil_iff.1 hstrip c List.mem_cons_self
      rw [hhead c rfl] at hall
      cases hall
    | cons d others =>
      rw [hstrip] at hprefix
      rw [(List.cons_prefix_cons.1 hprefix).1, List.head?_cons, List.head?_cons]

theorem stripped_strip (p : Char → Bool) (cs : List Char) : Stripped p (strip p cs) where
  head := by
    rw [head?_strip]
    exact head?_dropWhile p cs
  last := by
    unfold strip
    rw [List.getLast?_reverse]
    exact head?_dropWhile p _

theorem dropWhile_eq_self (h : ∀ c ∈ cs.head?, p c = false) : cs.dropWhile p = cs := by
  cases cs with
  | nil => rfl
  | cons c rest => exact List.dropWhile_cons_of_neg (by simp [h c rfl])

theorem Stripped.strip_eq (h : Stripped p cs) : strip p cs = cs := by
  have hlast : ∀ c ∈ cs.reverse.head?, p c = false := by
    rw [List.head?_reverse]
    exact h.last
  unfold strip
  rw [dropWhile_eq_self h.head, dropWhile_eq_self hlast, List.reverse_reverse]

theorem strip_infix (p : Char → Bool) (cs : List Char) : strip p cs <:+: cs :=
  (List.rdropWhile_prefix p _).isInfix.trans (List.dropWhile_suffix p).isInfix

/-- The front loses something only if nothing is left behind it. -/
theorem rdropWhile_append (p : Char → Bool) (front back : List Char) :
    (front ++ back).rdropWhile p =
      if back.rdropWhile p = [] then front.rdropWhile p else front ++ back.rdropWhile p := by
  unfold List.rdropWhile
  rw [List.reverse_append, List.dropWhile_append]
  simp only [List.isEmpty_iff, List.reverse_eq_nil_iff]
  split_ifs
  · rfl
  · rw [List.reverse_append, List.reverse_reverse]

theorem strip_cons (h : p c = true) (cs : List Char) : strip p (c :: cs) = strip p cs := by
  rw [strip, List.dropWhile_cons_of_pos h, ← strip]

theorem strip_concat (h : p c = true) (cs : List Char) : strip p (cs ++ [c]) = strip p cs := by
  rw [strip_eq, strip_eq, List.dropWhile_append]
  split
  · -- Nothing but the class stands in front, so the text is dropped from there to its end.
    rename_i hempty
    rw [List.isEmpty_iff.1 hempty, List.dropWhile_cons_of_pos h, List.dropWhile_nil]
  · exact List.rdropWhile_concat_pos p _ c h

end Stripping

section Lines

variable {cs line piece : List Char} {lines₁ lines₂ : List (List Char)}

/--
A line ends with a line feed or with a carriage return and a line feed. The last line need not end,
and behind its end there is no other line.
-/
def lines : List Char → List (List Char)
  | [] => []
  | '\r' :: '\n' :: rest => [] :: lines rest
  | c :: rest =>
    if c = '\n' then [] :: lines rest
    else
      match lines rest with
      | [] => [[c]]
      | line :: others => (c :: line) :: others

/-- Each line feed with a carriage return before it. -/
def withReturns (cs : List Char) : List Char :=
  cs.flatMap fun c => if c = '\n' then ['\r', '\n'] else [c]

/-- The piece is the line, or the line and a carriage return. -/
def EndsLine (line piece : List Char) : Prop := piece = line ∨ piece = line ++ ['\r']

theorem EndsLine.cons (h : EndsLine line piece) (c : Char) : EndsLine (c :: line) (c :: piece) := by
  rcases h with rfl | rfl
  · exact .inl rfl
  · exact .inr rfl

theorem forall₂_modifyHead (h : List.Forall₂ EndsLine lines₁ lines₂) (c : Char) :
    List.Forall₂ EndsLine (lines₁.modifyHead (c :: ·)) (lines₂.modifyHead (c :: ·)) := by
  cases h with
  | nil => exact .nil
  | cons hline hrest => exact .cons (hline.cons c) hrest

theorem EndsLine.trim_eq (h : EndsLine line piece) : trim piece = trim line := by
  rcases h with rfl | rfl
  · rfl
  · exact strip_concat (by decide) line

theorem map_trim_eq (h : List.Forall₂ EndsLine lines₁ lines₂) :
    lines₂.map trim = lines₁.map trim := by
  induction h with
  | nil => rfl
  | cons hline hrest ih => rw [List.map_cons, List.map_cons, hline.trim_eq, ih]

theorem lines_eq_nil_iff : lines cs = [] ↔ cs = [] := by
  fun_cases lines cs <;> simp

/-- The pieces between line feeds are the lines, and at most a last piece is empty. -/
theorem exists_pieces_eq (cs : List Char) :
    ∃ ended ending, pieces '\n' cs = ended ++ ending ∧ List.Forall₂ EndsLine (lines cs) ended ∧
      ∀ piece ∈ ending, piece = [] := by
  fun_induction lines cs with
  | case1 => exact ⟨[], [[]], rfl, .nil, by simp⟩
  | case2 rest ih =>
    -- The carriage return in front of the line feed is no part of the line, but of the piece.
    obtain ⟨ended, ending, hpieces, hended, hending⟩ := ih
    refine ⟨['\r'] :: ended, ending, ?_, .cons (.inr rfl) hended, hending⟩
    rw [pieces_cons, if_neg (by decide), pieces_cons, if_pos rfl, hpieces]
    rfl
  | case3 rest hreturn ih =>
    obtain ⟨ended, ending, hpieces, hended, hending⟩ := ih
    refine ⟨[] :: ended, ending, ?_, .cons (.inl rfl) hended, hending⟩
    rw [pieces_cons, if_pos rfl, hpieces]
    rfl
  | case4 c rest hreturn hc hlines ih =>
    obtain rfl := lines_eq_nil_iff.1 hlines
    refine ⟨[[c]], [], ?_, .cons (.inl rfl) .nil, by simp⟩
    rw [pieces_eq_singleton (by simpa using Ne.symm hc)]
    rfl
  | case5 c rest hreturn hc line others hlines ih =>
    rw [hlines] at ih
    obtain ⟨ended, ending, hpieces, hended, hending⟩ := ih
    cases hended with
    | cons hline hothers =>
      refine ⟨_ :: _, ending, ?_, .cons (hline.cons c) hothers, hending⟩
      rw [pieces_cons, if_neg hc, hpieces]
      rfl

theorem lines_cons {c : Char} (hc : c ≠ '\n') (hnext : c = '\r' → cs.head? ≠ some '\n')
    (hlines : lines cs = line :: lines₁) : lines (c :: cs) = (c :: line) :: lines₁ := by
  rw [lines.eq_def]
  split
  · rename_i heq
    cases heq
  · rename_i heq
    cases heq
    exact absurd rfl (hnext rfl)
  · rename_i heq
    cases heq
    rw [if_neg hc, hlines]

/-- A line that does not end with a carriage return itself. -/
theorem lines_append (hfeed : '\n' ∉ line) (hreturn : line.getLast? ≠ some '\r')
    (rest : List Char) : lines (line ++ '\n' :: rest) = line :: lines rest := by
  induction line with
  | nil => simp [lines]
  | cons c line ih =>
    obtain ⟨hc, hline⟩ := not_or.1 (mt List.mem_cons.2 hfeed)
    cases line with
    | nil =>
      have hnot : c ≠ '\r' := by simpa using hreturn
      exact lines_cons (Ne.symm hc) (fun h => absurd h hnot) (by simp [lines])
    | cons d others =>
      have hd : d ≠ '\n' := fun h => hline (h ▸ List.mem_cons_self)
      have hrest := ih hline (by simpa using hreturn)
      exact lines_cons (Ne.symm hc) (fun _ => by simpa using hd) hrest

theorem pieces_withReturns (cs : List Char) :
    List.Forall₂ EndsLine (pieces '\n' cs) (pieces '\n' (withReturns cs)) := by
  induction cs with
  | nil => exact .cons (.inl rfl) .nil
  | cons c rest ih =>
    unfold withReturns at ih ⊢
    rw [List.flatMap_cons, pieces_cons]
    by_cases hc : c = '\n'
    · rw [if_pos hc, if_pos hc, List.cons_append, List.singleton_append, pieces_cons,
        if_neg (by decide), pieces_cons, if_pos rfl]
      exact .cons (.inr rfl) ih
    · rw [if_neg hc, if_neg hc, List.singleton_append, pieces_cons, if_neg hc]
      exact forall₂_modifyHead ih c

end Lines

end TextMate.Text
