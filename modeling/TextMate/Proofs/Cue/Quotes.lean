import TextMate.Cue.Quote
import TextMate.Proofs.Cue.Pattern

/-! The regions of strings, told apart by their quotes and their number signs. -/
namespace TextMate

/-- The pattern that a rule is entered by. -/
def Rule.startPattern? : Rule → Option String
  | .reference .. => none
  | .leaf r => some r.pattern
  | .region r => some r.opening
  | .group _ => none

namespace Cue

namespace Pattern

/-- Nothing that the pattern matches begins with a number sign, and it matches something. -/
def Spells (part : Part) (p : String) : Prop := ∃ L, Denotes part p L ∧ Avoids '#' L

namespace Spells

variable {p q : String}

theorem char {c : Char} (h : c ∉ signs) (hc : c ≠ '#') : Spells .atom (.singleton c) :=
  ⟨_, .char h, .singleton hc⟩

theorem escaped {c : Char} (h : c ∈ signs) (hc : c ≠ '#') :
    Spells .atom ("\\" ++ .singleton c) :=
  ⟨_, .escaped h, .singleton hc⟩

theorem oneOf {text : String} (h : ∃ set, Lists text.toList set) (hne : text.toList ≠ []) :
    Spells .atom ("[" ++ text ++ "]") := by
  obtain ⟨set, hset⟩ := h
  obtain ⟨c, hc⟩ := hset.nonempty hne
  have hhash : '#' ∉ set := fun hmem => absurd (hset.zero_le hmem) (by decide)
  exact ⟨_, .oneOf hset, .letters hc hhash⟩

theorem group (h : Spells .choice p) : Spells .atom ("(?:" ++ p ++ ")") := by
  obtain ⟨L, hL, havoids⟩ := h
  exact ⟨L, .group hL, havoids⟩

theorem once (h : Spells .atom p) : Spells .sequence p := by
  obtain ⟨L, hL, havoids⟩ := h
  exact ⟨L, .once hL, havoids⟩

theorem times (h : Spells .atom p) (n : Nat) :
    Spells .sequence (p ++ "\x7b" ++ toString (n + 1) ++ "\x7d") := by
  obtain ⟨L, hL, havoids⟩ := h
  exact ⟨L ^ (n + 1), .times (n + 1) hL, havoids.pow n⟩

theorem append (h : Spells .sequence p) (h' : Spells .sequence q) : Spells .sequence (p ++ q) := by
  obtain ⟨L, hL, havoids⟩ := h
  obtain ⟨M, hM, hother⟩ := h'
  exact ⟨L * M, .append hL hM, havoids.mul hother.inhabited⟩

theorem only (h : Spells .sequence p) : Spells .choice p := by
  obtain ⟨L, hL, havoids⟩ := h
  exact ⟨L, .only hL, havoids⟩

theorem or (h : Spells .choice p) (h' : Spells .choice q) : Spells .choice (p ++ "|" ++ q) := by
  obtain ⟨L, hL, havoids⟩ := h
  obtain ⟨M, hM, hother⟩ := h'
  exact ⟨L + M, .or hL hM, havoids.add hother⟩

end Spells

section Lexemes

open Lexeme

theorem spells_hexDigit : Spells .atom ("[" ++ "0-9A-Fa-f" ++ "]") := by
  have htext : "0-9A-Fa-f".toList = ['0', '-', '9', 'A', '-', 'F', 'a', '-', 'f'] := by decide
  refine .oneOf ?_ (by decide)
  rw [htext]
  exact ⟨_, .range rfl rfl (by decide) (.range rfl rfl (by decide)
    (.range rfl rfl (by decide) .nil))⟩

theorem spells_octalDigit : Spells .atom ("[" ++ "0-7" ++ "]") := by
  have htext : "0-7".toList = ['0', '-', '7'] := by decide
  refine .oneOf ?_ (by decide)
  rw [htext]
  exact ⟨_, .range rfl rfl (by decide) .nil⟩

theorem spells_controlEscape : Spells .atom ("[" ++ "abfnrtv" ++ "]") := by
  have htext : "abfnrtv".toList = ['a', 'b', 'f', 'n', 'r', 't', 'v'] := by decide
  refine .oneOf ?_ (by decide)
  rw [htext]
  exact ⟨_, .one rfl (.one rfl (.one rfl (.one rfl (.one rfl (.one rfl (.one rfl .nil))))))⟩

/-- A letter and a number of hexadecimal digits. -/
theorem spells_hexDigits {c : Char} (hsign : c ∉ signs) (hhash : c ≠ '#') (n : Nat) :
    Spells .choice (.singleton c ++
      ("[" ++ "0-9A-Fa-f" ++ "]" ++ "\x7b" ++ toString (n + 1) ++ "\x7d")) :=
  .only (.append (.once (.char hsign hhash)) (.times spells_hexDigit n))

theorem spells_commonEscape : Spells .choice commonEscape := by
  have hplain : Spells .choice plainEscape :=
    .or (.only (.once (.char (c := '/') (by decide) (by decide))))
      (.only (.once (.escaped (c := '\\') (by decide) (by decide))))
  have hcontrol : Spells .choice controlEscape := .only (.once spells_controlEscape)
  have hshort : Spells .choice shortUnicodeEscape :=
    spells_hexDigits (c := 'u') (by decide) (by decide) 3
  have hlong : Spells .choice longUnicodeEscape :=
    spells_hexDigits (c := 'U') (by decide) (by decide) 7
  exact ((hplain.or hcontrol).or hshort).or hlong

theorem spells_byteEscape : Spells .choice byteEscape := by
  have hoctal : Spells .choice octalEscape := .only (.times spells_octalDigit 2)
  have hhex : Spells .choice hexEscape :=
    spells_hexDigits (c := 'x') (by decide) (by decide) 1
  exact hoctal.or hhex

/-- The quotes of a delimiter, one or three of them. -/
theorem spells_delimiter (q : Quote) : Spells .choice q.delimiter := by
  have hquote : ∀ c ∈ ['"', '\x27'], Spells .sequence (.singleton c) := by
    intro c hc
    have hcases : c = '"' ∨ c = '\x27' := by simpa using hc
    rcases hcases with rfl | rfl
    · exact .once (.char (by decide) (by decide))
    · exact .once (.char (by decide) (by decide))
  have hthree : ∀ c ∈ ['"', '\x27'],
      Spells .choice (.singleton c ++ .singleton c ++ .singleton c) := by
    intro c hc
    exact .only (((hquote c hc).append (hquote c hc)).append (hquote c hc))
  cases q with
  | double => exact .only (hquote '"' (by decide))
  | single => exact .only (hquote '\x27' (by decide))
  | doubleMultiline => exact hthree '"' (by decide)
  | singleMultiline => exact hthree '\x27' (by decide)

end Lexemes

end Pattern

namespace Quote

open Pattern

section Hashes

variable {p tail : String} {L M : Language Char} {n : Nat}

theorem hashes_succ (n : Nat) : hashes (n + 1) = .singleton '#' ++ hashes n := by
  apply String.toList_inj.1
  simp [hashes, List.replicate_succ]

theorem singleton_mul (c : Char) (w : List Char) (M : Language Char) :
    ({[c]} : Language Char) * ({w} * M) = {c :: w} * M := by
  have hword : ({[c]} : Language Char) * {w} = {c :: w} := Set.image2_singleton
  rw [← mul_assoc, hword]

/-- Number signs stand for themselves. -/
theorem denotes_hashes (h : Denotes .sequence tail M) (n : Nat) :
    Denotes .sequence (hashes n ++ tail) ({List.replicate n '#'} * M) := by
  induction n with
  | zero =>
    have hempty : ({[]} : Language Char) * M = M := one_mul M
    rw [List.replicate_zero, hempty]
    exact (String.empty_append (s := tail)).symm ▸ h
  | succ n ih =>
    rw [hashes_succ, String.append_assoc, List.replicate_succ, ← singleton_mul]
    exact .append (.once (.char (by decide))) ih

theorem denotes_escape (h : Denotes .sequence tail M) (n : Nat) :
    Denotes .choice ("\\\\" ++ hashes n ++ tail) ({'\\' :: List.replicate n '#'} * M) := by
  rw [String.append_assoc, ← singleton_mul]
  exact .only (.append (.once (.escaped (c := '\\') (by decide))) (denotes_hashes h n))

end Hashes

/--
A rule is entered by a pattern for a backslash, `n` number signs and what is in `rest`, and it needs
no further sign.
-/
structure Needs (n : Nat) (r : Rule) (rest : Language Char) : Prop where
  pattern : ∃ tail, r.startPattern? = some ("\\\\" ++ hashes n ++ tail) ∧
    tail.toList.head? ≠ some '#' ∧
    Denotes .choice ("\\\\" ++ hashes n ++ tail) ({'\\' :: List.replicate n '#'} * rest)
  free : ∃ w ∈ rest, w.head? ≠ some '#'

theorem head?_ne_of_avoids {L : Language Char} (h : Avoids '#' L) :
    ∀ w ∈ L, w.head? ≠ some '#' := by
  intro w hw
  obtain ⟨d, rest, rfl, hd⟩ := h.head w hw
  simpa using hd

theorem exists_needs {r : Rule} {n : Nat} {tail : String}
    (hr : r.startPattern? = some ("\\\\" ++ hashes n ++ tail))
    (htail : tail.toList.head? ≠ some '#') (h : Spells .atom tail) :
    ∃ rest, Needs n r rest ∧ ∀ w ∈ rest, w.head? ≠ some '#' := by
  obtain ⟨L, hL, havoids⟩ := h
  obtain ⟨w, hw⟩ := havoids.inhabited
  have hhead := head?_ne_of_avoids havoids
  exact ⟨L, ⟨⟨tail, hr, htail, denotes_escape (.once hL) n⟩, w, hw, hhead w hw⟩, hhead⟩

/-- The region of a quote with a number of signs. -/
def shape (q : Quote) (n : Nat) : Region Rule :=
  match q.region n with
  | .region r => r
  | _ => default

/-- The regions of strings in the order in which they are tried. -/
def shapes (maxHashes : Nat) : List (Region Rule) :=
  (List.range (maxHashes + 1)).reverse.flatMap fun n => all.map (shape · n)

section Shapes

variable {q q' : Quote} {m n : Nat}

theorem regions_eq (maxHashes : Nat) :
    regions maxHashes = (shapes maxHashes).map .region ++ [.including "#string_backtick"] := by
  have hshape : ∀ n, all.map (region · n) = (all.map (shape · n)).map .region := fun n => rfl
  simp only [regions, shapes, List.map_flatMap, hshape]

theorem length_shapes (maxHashes : Nat) : (shapes maxHashes).length = 4 * (maxHashes + 1) := by
  have hfour : ∀ n, (all.map (shape · n)).length = 4 := fun n => rfl
  simp only [shapes, List.length_flatMap, hfour, List.map_const', List.sum_replicate,
    List.length_reverse, List.length_range, smul_eq_mul]
  omega

theorem mem_shapes {maxHashes : Nat} {r : Region Rule} (h : r ∈ shapes maxHashes) :
    ∃ q n, r = shape q n := by
  obtain ⟨n, -, hr⟩ := List.mem_flatMap.1 h
  obtain ⟨q, -, rfl⟩ := List.mem_map.1 hr
  exact ⟨q, n, rfl⟩

theorem toList_hashes (n : Nat) : (hashes n).toList = List.replicate n '#' := String.toList_ofList

theorem toList_opening (q : Quote) (n : Nat) :
    (shape q n).opening.toList = List.replicate n '#' ++ q.delimiter.toList := by
  change (hashes n ++ q.delimiter).toList = _
  rw [String.toList_append, toList_hashes]

theorem toList_closing (q : Quote) (n : Nat) :
    (shape q n).closing.toList = q.delimiter.toList ++ List.replicate n '#' := by
  change (q.delimiter ++ hashes n).toList = _
  rw [String.toList_append, toList_hashes]

theorem count_opening (q : Quote) (n : Nat) : (shape q n).opening.toList.count '#' = n := by
  have hdelimiter : q.delimiter.toList.count '#' = 0 := by cases q <;> decide
  rw [toList_opening, List.count_append, List.count_replicate_self, hdelimiter, Nat.add_zero]

theorem reverse_opening (q : Quote) (n : Nat) :
    (shape q n).closing.toList = (shape q n).opening.toList.reverse := by
  have hdelimiter : q.delimiter.toList.reverse = q.delimiter.toList := by cases q <;> decide
  rw [toList_opening, toList_closing, List.reverse_append, List.reverse_replicate, hdelimiter]

/-- With more signs a string does not begin like one with fewer. -/
theorem not_prefix_of_lt (h : n < m) :
    ¬ (shape q m).opening.toList <+: (shape q' n).opening.toList := by
  have hhead : q'.delimiter.toList.head? ≠ some '#' := by cases q' <;> decide
  obtain ⟨k, rfl⟩ := Nat.exists_eq_add_of_lt h
  rw [toList_opening, toList_opening, Nat.add_assoc, ← List.replicate_append_replicate,
    List.append_assoc, List.prefix_append_right_inj, List.replicate_succ]
  rintro ⟨rest, hrest⟩
  rw [← hrest] at hhead
  exact hhead rfl

/-- Among strings with as many signs the order of the quotes decides. -/
theorem pairwise_all : all.Pairwise fun q q' => ¬ q.delimiter.toList <+: q'.delimiter.toList := by
  decide

/-- No opening begins like a later one. -/
theorem shapes_pairwise (maxHashes : Nat) : (shapes maxHashes).Pairwise fun earlier later =>
    ¬ earlier.opening.toList <+: later.opening.toList := by
  refine List.pairwise_flatMap.2 ⟨fun n _ => ?_, ?_⟩
  · refine List.pairwise_map.2 (pairwise_all.imp fun {q q'} hquote => ?_)
    rw [toList_opening, toList_opening, List.prefix_append_right_inj]
    exact hquote
  · refine List.pairwise_reverse.2 (List.pairwise_lt_range.imp fun {n m} hlt => ?_)
    intro r hr r' hr'
    obtain ⟨q, -, rfl⟩ := List.mem_map.1 hr
    obtain ⟨q', -, rfl⟩ := List.mem_map.1 hr'
    exact not_prefix_of_lt hlt

end Shapes

/-- What begins with a group does not begin with a sign. -/
theorem head?_group (p : String) : ("(?:" ++ p ++ ")").toList.head? ≠ some '#' := by
  rw [String.toList_append, String.toList_append]
  exact fun h => absurd (Option.some.inj h) (by decide)

/--
The patterns of a string with `n` signs: two rules for escapes and one for interpolations, which
take as many signs and no more, and behind them a rule for any other backslash with these signs.
-/
structure Escapes (n : Nat) (common bytes : Leaf Rule) (interpolation : Region Rule)
    (other : Leaf Rule) (patterns : List Rule) : Prop where
  rules : patterns = [.leaf common, .leaf bytes, .region interpolation, .leaf other]
  escape : ∀ inner ∈ [common, bytes], ∃ rest, Needs n (.leaf inner) rest ∧
    ∀ w ∈ rest, w.head? ≠ some '#'
  parenthesis : Needs n (.region interpolation) {['(']}
  character : Needs n (.leaf other) {w | ∃ c, c ≠ '\n' ∧ w = [c]}

theorem exists_escapes (q : Quote) (n : Nat) : ∃ common bytes interpolation other,
    Escapes n common bytes interpolation other (q.escapes (hashes n)) := by
  have hcommon := ((spells_delimiter q).or spells_commonEscape).group
  have hbytes := spells_byteEscape.group
  refine ⟨_, _, _, _, rfl, ?_, ⟨⟨"\\(", rfl, by decide, ?_⟩, ['('], rfl, by decide⟩,
    ⟨⟨".", rfl, by decide, ?_⟩, ['a'], ⟨'a', by decide, rfl⟩, by decide⟩⟩
  · simp only [List.forall_mem_cons]
    refine ⟨?_, ?_, nofun⟩
    · refine exists_needs ?_ (head?_group _) hcommon
      simp only [Rule.startPattern?, String.append_assoc]
    · refine exists_needs ?_ (head?_group _) hbytes
      simp only [Rule.startPattern?, String.append_assoc]
  · exact denotes_escape (.once (.escaped (c := '(') (by decide))) n
  · exact denotes_escape (.once .any) n

/--
The strings with up to a number of signs have one region for each quote and each number of signs.
Of two regions the one whose opening begins like the opening of the other stands in front, and so
the first region that a text begins with is the one that takes most of it. A region closes with the
reverse of what opens it. It has two rules for escapes and one for interpolations, which need
exactly as many signs behind their backslash as it has itself, and its last rule needs no more.
-/
theorem regions_apart (maxHashes : Nat) :
    ∃ shapes : List (Region Rule),
      regions maxHashes = shapes.map .region ++ [.including "#string_backtick"] ∧
      shapes.length = 4 * (maxHashes + 1) ∧
      (shapes.map (·.opening)).Nodup ∧
      (shapes.Pairwise fun earlier later =>
        ¬ earlier.opening.toList <+: later.opening.toList) ∧
      (∀ text first, shapes.find? (·.opening.toList.isPrefixOf text) = some first →
        ∀ r ∈ shapes, r.opening.toList <+: text → r.opening.toList <+: first.opening.toList) ∧
      ∀ r ∈ shapes, r.closing.toList = r.opening.toList.reverse ∧
        ∃ common bytes interpolation other,
          Escapes (r.opening.toList.count '#') common bytes interpolation other r.patterns := by
  have hpairwise := shapes_pairwise maxHashes
  refine ⟨shapes maxHashes, regions_eq maxHashes, length_shapes maxHashes, ?_, hpairwise, ?_, ?_⟩
  · refine List.pairwise_map.2 (hpairwise.imp fun {r r'} hnot heq => hnot ?_)
    rw [heq]
  · intro text first hfirst r hr hprefix
    obtain ⟨hfits, before, after, hsplit, hbefore⟩ := List.find?_eq_some_iff_append.1 hfirst
    rw [hsplit] at hr hpairwise
    rcases List.mem_append.1 hr with hr | hr
    · have hnot := hbefore r hr
      rw [List.isPrefixOf_iff_prefix.2 hprefix] at hnot
      cases hnot
    · rcases List.mem_cons.1 hr with rfl | hr
      · exact List.prefix_rfl
      · have hlater := (List.pairwise_cons.1 (List.pairwise_append.1 hpairwise).2.1).1 r hr
        have hfirst := List.isPrefixOf_iff_prefix.1 hfits
        exact (List.prefix_or_prefix_of_prefix hprefix hfirst).resolve_right hlater
  · intro r hr
    obtain ⟨q, n, rfl⟩ := mem_shapes hr
    rw [count_opening]
    exact ⟨reverse_opening q n, exists_escapes q n⟩

end Quote

end Cue

end TextMate
