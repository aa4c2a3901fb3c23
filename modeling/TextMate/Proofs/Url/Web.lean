import TextMate.Proofs.Text
import TextMate.Proofs.Url.Segments

/-!
The parts of which the URL of a web scheme is written: an authority, a path, and a query or a
fragment. Each of them is read by itself.
-/
namespace TextMate.Url

/-- The text of an authority: no path, query or fragment starts in it, and some of it is read. -/
structure IsAuthorityText (cs : List Char) : Prop where
  undivided : ∀ c ∈ cs, c ≠ '/' ∧ c ≠ '\\' ∧ c ≠ '?' ∧ c ≠ '#'
  read : ∃ c ∈ cs, c ≠ '\t' ∧ c ≠ '\n' ∧ c ≠ '\r'

/-- The text of a path: it starts with a slash, and no query or fragment starts in it. -/
def IsPathText (cs : List Char) : Prop := cs.head? = some '/' ∧ ∀ c ∈ cs, c ≠ '?' ∧ c ≠ '#'

/-- What may follow a path: nothing, or a query or a fragment with its mark. -/
def IsTail (cs : List Char) : Prop := ∀ c ∈ cs.head?, c = '?' ∨ c = '#'

/-- A character that does not count at the ends of a URL. -/
def isEdge (c : Char) : Bool := c.toNat ≤ 0x20

section Parts

variable {authority path tail : List Char}

theorem IsAuthorityText.withoutBreaks (h : IsAuthorityText authority) :
    withoutBreaks authority ≠ [] ∧
      ∀ c ∈ withoutBreaks authority, Authority.isEnd .web c = false := by
  constructor
  · obtain ⟨c, hc, htab, hfeed, hreturn⟩ := h.read
    exact List.ne_nil_of_mem (List.mem_filter.2 ⟨hc, by simp [isBreak, htab, hfeed, hreturn]⟩)
  · intro c hc
    obtain ⟨hslash, hback, hquery, hfragment⟩ := h.undivided c (List.mem_of_mem_filter hc)
    simp [Authority.isEnd, hslash, hback, hquery, hfragment]

theorem IsPathText.exists_cons (h : IsPathText path) : ∃ rest, path = '/' :: rest :=
  List.head?_eq_some_iff.1 h.1

theorem IsPathText.withoutBreaks (h : IsPathText path) : IsPathText (withoutBreaks path) := by
  obtain ⟨rest, rfl⟩ := h.exists_cons
  exact ⟨rfl, fun c hc => h.2 c (List.mem_of_mem_filter hc)⟩

/-- A path is not cleaned away to its first slash. -/
theorem IsPathText.rdropWhile (h : IsPathText path) : IsPathText (path.rdropWhile isEdge) := by
  obtain ⟨rest, rfl⟩ := h.exists_cons
  have hfront := List.rdropWhile_prefix isEdge ('/' :: rest)
  refine ⟨?_, fun c hc => h.2 c (hfront.subset hc)⟩
  cases hdrop : ('/' :: rest).rdropWhile isEdge with
  | nil => exact absurd (List.rdropWhile_eq_nil_iff.1 hdrop '/' List.mem_cons_self) (by decide)
  | cons c others =>
    rw [hdrop] at hfront
    rw [(List.cons_prefix_cons.1 hfront).1, List.head?_cons]

theorem IsTail.cases (h : IsTail tail) :
    tail = [] ∨ ∃ mark rest, tail = mark :: rest ∧ (mark = '?' ∨ mark = '#') := by
  cases tail with
  | nil => exact .inl rfl
  | cons mark rest => exact .inr ⟨mark, rest, rfl, h mark rfl⟩

theorem IsTail.withoutBreaks (h : IsTail tail) : IsTail (withoutBreaks tail) := by
  rcases h.cases with rfl | ⟨mark, rest, rfl, rfl | rfl⟩
  · exact h
  · exact fun c hc => .inl (Option.some.inj hc).symm
  · exact fun c hc => .inr (Option.some.inj hc).symm

/-- Nor is a tail cleaned away to its mark. -/
theorem IsTail.rdropWhile (h : IsTail tail) :
    IsTail (tail.rdropWhile isEdge) ∧ (tail.rdropWhile isEdge = [] ↔ tail = []) := by
  have hfront := List.rdropWhile_prefix isEdge tail
  constructor
  · intro c hc
    obtain ⟨others, hdrop⟩ := List.head?_eq_some_iff.1 hc
    rw [hdrop] at hfront
    obtain ⟨rest, rfl⟩ := hfront
    exact h c rfl
  · refine ⟨fun hdrop => ?_, fun hnil => by rw [hnil, List.rdropWhile_nil]⟩
    rcases h.cases with rfl | ⟨mark, rest, rfl, hmark⟩
    · rfl
    · have hedge := List.rdropWhile_eq_nil_iff.1 hdrop mark List.mem_cons_self
      rcases hmark with rfl | rfl <;> exact absurd hedge (by decide)

end Parts

section Tails

variable {mark : Char} {before path tail : List Char}

theorem cutOff_append (h : mark ∉ before) (cs : List Char) :
    cutOff mark (before ++ cs) = (before ++ (cutOff mark cs).1, (cutOff mark cs).2) := by
  unfold cutOff
  cases hcut : Text.cutAt mark cs with
  | none =>
    have hmem : mark ∉ before ++ cs := by
      rw [List.mem_append, not_or]
      exact ⟨h, Text.cutAt_eq_none_iff.1 hcut⟩
    rw [Text.cutAt_eq_none_iff.2 hmem]
  | some cut =>
    obtain ⟨first, after⟩ := cut
    obtain ⟨rfl, hfirst⟩ := Text.cutAt_eq_some_iff.1 hcut
    have hmem : mark ∉ before ++ first := by
      rw [List.mem_append, not_or]
      exact ⟨h, hfirst⟩
    rw [← List.append_assoc, Text.cutAt_append hmem]

theorem cutTail_path (h : IsTail tail) : (cutTail tail).path = [] := by
  rcases h.cases with rfl | ⟨mark, rest, rfl, rfl | rfl⟩
  · rfl
  · -- The fragment of a query starts behind its question mark.
    have hcut : cutOff '#' ('?' :: rest) = ('?' :: (cutOff '#' rest).1, (cutOff '#' rest).2) :=
      cutOff_append (by decide : '#' ∉ ['?']) rest
    simp only [cutTail, hcut]
    rfl
  · rfl

/-- What follows a path tells the query and the fragment. -/
theorem cutTail_append (hpath : IsPathText path) (htail : IsTail tail) :
    cutTail (path ++ tail) = { cutTail tail with path := path } := by
  have hquery : '?' ∉ path := fun hmem => (hpath.2 _ hmem).1 rfl
  have hfragment : '#' ∉ path := fun hmem => (hpath.2 _ hmem).2 rfl
  have hnil : (cutOff '?' (cutOff '#' tail).1).1 = [] := cutTail_path htail
  simp only [cutTail, cutOff_append hfragment, cutOff_append hquery, hnil, List.append_nil]

end Tails

section Reading

variable {scheme text : String} {authority path tail : List Char}

/-- The text of an authority ends where the path starts. -/
theorem parseWeb_parts (hne : authority ≠ [])
    (hauthority : ∀ c ∈ authority, Authority.isEnd .web c = false) (hpath : IsPathText path)
    (htail : IsTail tail) :
    parseWeb scheme ('/' :: '/' :: authority ++ path ++ tail) = do
      let (authority, _) ← Authority.parse scheme true authority
      return build scheme authority (.segments (Path.resolved .web path)) (cutTail tail) := by
  have hdrop : ('/' :: '/' :: authority ++ path ++ tail).dropWhile (Path.isSlash .web) =
      authority ++ (path ++ tail) := by
    obtain ⟨first, others, rfl⟩ := List.exists_cons_of_ne_nil hne
    have hfirst : Path.isSlash .web first = false := by
      have hend := hauthority first List.mem_cons_self
      simp only [Authority.isEnd, Bool.or_eq_false_iff] at hend
      simp only [Path.isSlash, hend.1.1.1, hend.2, Bool.or_self]
    rw [List.append_assoc, List.cons_append, List.cons_append, List.dropWhile_cons_of_pos rfl,
      List.dropWhile_cons_of_pos rfl]
    exact List.dropWhile_cons_of_neg (by simp [hfirst])
  have hspan : (authority ++ (path ++ tail)).span (!Authority.isEnd .web ·) =
      (authority, path ++ tail) := by
    obtain ⟨rest, rfl⟩ := hpath.exists_cons
    exact Text.span_append (by simpa using hauthority) rfl
  have hmore : (!(path ++ tail).isEmpty) = true := by
    obtain ⟨rest, rfl⟩ := hpath.exists_cons
    rfl
  unfold parseWeb
  rw [hdrop, hspan]
  simp only [hmore, cutTail_append hpath htail]
  rfl

/-- The end of the text is cleaned of spaces and controls, be it a tail or, without one, a path. -/
theorem clean_parts {before : List Char} (hstart : ∃ c ∈ before.head?, isEdge c = false)
    (hpath : IsPathText path) (htail : IsTail tail) (htext : text.toList = before ++ path ++ tail) :
    clean text = before ++ (if tail = [] then path.rdropWhile isEdge else path) ++
      tail.rdropWhile isEdge := by
  have hdrop : (before ++ path ++ tail).dropWhile isEdge = before ++ path ++ tail := by
    obtain ⟨c, hc, hedge⟩ := hstart
    obtain ⟨others, rfl⟩ := List.head?_eq_some_iff.1 hc
    exact List.dropWhile_cons_of_neg (by simp [hedge])
  have hpathEnd : path.rdropWhile isEdge ≠ [] := by
    obtain ⟨rest, hrest⟩ := hpath.rdropWhile.exists_cons
    simp [hrest]
  change Text.strip isEdge text.toList = _
  rw [Text.strip_eq, htext, hdrop, Text.rdropWhile_append]
  split_ifs with htailEnd hnil hnil
  · rw [Text.rdropWhile_append, if_neg hpathEnd, htailEnd, List.append_nil]
  · exact absurd (htail.rdropWhile.2.1 htailEnd) hnil
  · exact absurd (htail.rdropWhile.2.2 hnil) htailEnd
  · rfl

theorem withoutBreaks_append (cs ds : List Char) :
    withoutBreaks (cs ++ ds) = withoutBreaks cs ++ withoutBreaks ds :=
  List.filter_append cs ds

/-- A URL of the web is read part by part, without breaks and cleaned at its end. -/
theorem parse_parts (hscheme : scheme = "http" ∨ scheme = "https")
    (hauthority : IsAuthorityText authority) (hpath : IsPathText path) (htail : IsTail tail)
    (htext : text.toList = scheme.toList ++ "://".toList ++ authority ++ path ++ tail) :
    parse text = do
      let (authority, _) ← Authority.parse scheme true (withoutBreaks authority)
      return build scheme authority
        (.segments (Path.resolved .web
          (withoutBreaks (if tail = [] then path.rdropWhile isEdge else path))))
        (cutTail (withoutBreaks (tail.rdropWhile isEdge))) := by
  have hstart : ∃ c ∈ (scheme.toList ++ "://".toList ++ authority).head?, isEdge c = false := by
    rcases hscheme with rfl | rfl <;> exact ⟨'h', rfl, rfl⟩
  have hplain : withoutBreaks (scheme.toList ++ "://".toList) = scheme.toList ++ "://".toList := by
    rcases hscheme with rfl | rfl <;> rfl
  have hcut : ∀ rest, cutScheme (scheme.toList ++ "://".toList ++ rest) =
      some (scheme, '/' :: '/' :: rest) := by
    rcases hscheme with rfl | rfl <;> exact fun _ => rfl
  have hkind : schemeKind scheme = .web := by
    rcases hscheme with rfl | rfl <;> rfl
  have hkept : IsPathText (if tail = [] then path.rdropWhile isEdge else path) := by
    split_ifs
    · exact hpath.rdropWhile
    · exact hpath
  obtain ⟨hne, hundivided⟩ := hauthority.withoutBreaks
  unfold parse
  rw [clean_parts hstart hpath htail htext, withoutBreaks_append, withoutBreaks_append,
    withoutBreaks_append, hplain, List.append_assoc, List.append_assoc, hcut]
  simp only [hkind]
  rw [← List.append_assoc]
  exact parseWeb_parts hne hundivided hkept.withoutBreaks htail.rdropWhile.1.withoutBreaks

end Reading

section Segments

variable {c : Char} {cs segment first : List Char} {list : List (List Char)}

/-- A character that stands for itself in every part of a URL. -/
def isUnreserved (c : Char) : Bool := c.isAlphanum || c ∈ ['-', '.', '_', '~']

/-- A segment that is written as it is, and no name of a directory that is there already. -/
structure Path.IsPlain (segment : List Char) : Prop where
  unreserved : ∀ c ∈ segment, isUnreserved c = true
  ne_point : segment ≠ ['.']
  ne_points : segment ≠ ['.', '.']

theorem toNat_of_isUnreserved (h : isUnreserved c = true) : 0x20 < c.toNat ∧ c.toNat < 0x7f := by
  simp only [isUnreserved, Bool.or_eq_true, decide_eq_true_eq] at h
  rcases h with halphanum | hmark
  · simp [Char.isAlphanum, Char.isAlpha, Char.isUpper, Char.isLower, Char.isDigit,
      UInt32.le_iff_toNat_le] at halphanum
    omega
  · have hcases : c = '-' ∨ c = '.' ∨ c = '_' ∨ c = '~' := by simpa using hmark
    rcases hcases with rfl | rfl | rfl | rfl <;> decide

theorem isEdge_of_isUnreserved (h : isUnreserved c = true) : isEdge c = false := by
  have hbounds := toNat_of_isUnreserved h
  simp only [isEdge, decide_eq_false_iff_not]
  omega

theorem isBreak_of_not_isEdge (h : isEdge c = false) : isBreak c = false := by
  simp only [isBreak, decide_eq_false_iff_not, List.mem_cons, List.not_mem_nil, or_false]
  rintro (rfl | rfl | rfl) <;> exact absurd h (by decide)

theorem inPathSet_of_isUnreserved (h : isUnreserved c = true) : inPathSet c = false := by
  have hbounds := toNat_of_isUnreserved h
  have hcontrols : inControls c = false := by
    simp only [inControls, Bool.or_eq_false_iff, decide_eq_false_iff_not]
    omega
  have hne : ∀ d, isUnreserved d = false → c ≠ d := by
    rintro d hd rfl
    rw [hd] at h
    cases h
  simp only [inPathSet, inFragmentSet, hcontrols, Bool.false_or, Bool.or_eq_false_iff,
    decide_eq_false_iff_not, List.mem_cons, List.not_mem_nil, or_false, not_or]
  exact ⟨⟨hne _ rfl, hne _ rfl, hne _ rfl, hne _ rfl, hne _ rfl⟩,
    hne _ rfl, hne _ rfl, hne _ rfl, hne _ rfl⟩

theorem percentEncode_eq_self {set : Char → Bool} (h : ∀ c ∈ cs, set c = false) :
    percentEncode set cs = cs := by
  unfold percentEncode
  induction cs with
  | nil => rfl
  | cons c rest ih =>
    obtain ⟨hc, hrest⟩ := List.forall_mem_cons.1 h
    rw [List.flatMap_cons, ih hrest, hc]
    rfl

theorem withoutBreaks_eq_self (h : ∀ c ∈ cs, isEdge c = false) : withoutBreaks cs = cs :=
  List.filter_eq_self.2 fun c hc => by rw [isBreak_of_not_isEdge (h c hc)]; rfl

theorem rdropWhile_eq_self (h : ∀ c ∈ cs, isEdge c = false) : cs.rdropWhile isEdge = cs :=
  List.rdropWhile_eq_self_iff.2 fun hne => by simp [h _ (List.getLast_mem hne)]

namespace Path

/-- Without escapes, points are written as points. -/
theorem eq_replicate_of_points {n : Nat} (hplain : '%' ∉ segment) (h : points segment = some n) :
    segment = List.replicate n '.' := by
  induction segment generalizing n with
  | nil =>
    obtain rfl : 0 = n := Option.some.inj h
    rfl
  | cons c rest ih =>
    obtain ⟨hc, hrest⟩ := not_or.1 (mt List.mem_cons.2 hplain)
    unfold points at h
    split at h
    · rename_i heq
      cases heq
    · rename_i heq
      cases heq
      obtain ⟨m, hm, rfl⟩ := Option.map_eq_some_iff.1 h
      rw [ih hrest hm, List.replicate_succ]
    · rename_i heq
      cases heq
      exact absurd rfl hc
    · rename_i heq
      cases heq
      exact absurd rfl hc
    · cases h

theorem IsPlain.not_mem (h : IsPlain segment) (hc : isUnreserved c = false) : c ∉ segment := by
  intro hmem
  rw [h.unreserved c hmem] at hc
  cases hc

theorem IsPlain.isSlash (h : IsPlain segment) : ∀ c ∈ segment, isSlash .web c = false := by
  intro c hc
  have hslash : c ≠ '/' := fun heq => h.not_mem (by decide) (heq ▸ hc)
  have hback : c ≠ '\\' := fun heq => h.not_mem (by decide) (heq ▸ hc)
  simp [Path.isSlash, hslash, hback]

theorem IsPlain.enter (h : IsPlain segment) (t : Trail) (final : Bool) :
    t.enter .web final (percentEncode inPathSet (withoutBreaks segment)) = t.push segment := by
  have hread : percentEncode inPathSet (withoutBreaks segment) = segment := by
    rw [withoutBreaks_eq_self fun c hc => isEdge_of_isUnreserved (h.unreserved c hc),
      percentEncode_eq_self fun c hc => inPathSet_of_isUnreserved (h.unreserved c hc)]
  have hpoints : ∀ n, points segment = some n → segment = List.replicate n '.' :=
    fun n => eq_replicate_of_points (h.not_mem (by decide))
  rw [hread]
  unfold Trail.enter
  split
  · rename_i htwo
    exact absurd (hpoints 2 htwo) h.ne_points
  · rename_i hone
    exact absurd (hpoints 1 hone) h.ne_point
  · unfold Trail.append
    rw [if_neg (by simp)]

/-- Every plain segment is added to the trail as it is. -/
theorem resolve_of_isPlain (h : ∀ segment ∈ list, IsPlain segment) (t : Trail) :
    (resolve .web t list).segments = list.reverse ++ t.segments := by
  induction list generalizing t with
  | nil => rfl
  | cons segment rest ih =>
    obtain ⟨hsegment, hrest⟩ := List.forall_mem_cons.1 h
    unfold resolve
    rw [if_neg (by simp)]
    simp only [hsegment.enter, ih hrest, Trail.push, List.reverse_cons, List.append_assoc,
      List.singleton_append]

theorem cut_segments {kind : SchemeKind} (hfirst : ∀ c ∈ first, isSlash kind c = false)
    (hlist : ∀ segment ∈ list, ∀ c ∈ segment, isSlash kind c = false) :
    cut kind (first ++ list.flatMap ('/' :: ·)) = first :: list := by
  have hslash : isSlash kind '/' = true := rfl
  rw [cut_eq_splitOnP]
  induction list generalizing first with
  | nil => rw [List.flatMap_nil, List.append_nil, List.splitOnP_eq_singleton hfirst]
  | cons segment rest ih =>
    obtain ⟨hsegment, hrest⟩ := List.forall_mem_cons.1 hlist
    rw [List.flatMap_cons, List.cons_append, List.splitOnP_append_cons _ _ hslash,
      List.splitOnP_eq_singleton hfirst, ih hsegment hrest]
    rfl

/-- A path that is written from plain segments is resolved to these. -/
theorem resolved_text (hne : list ≠ []) (h : ∀ segment ∈ list, IsPlain segment) :
    resolved .web (text (.segments list)) = list := by
  obtain ⟨first, rest, rfl⟩ := List.exists_cons_of_ne_nil hne
  obtain ⟨hfirst, hrest⟩ := List.forall_mem_cons.1 h
  have hslash : behindSlash? .web (text (.segments (first :: rest))) =
      some (first ++ rest.flatMap ('/' :: ·)) := rfl
  have hcut : cut .web (first ++ rest.flatMap ('/' :: ·)) = first :: rest :=
    cut_segments hfirst.isSlash fun segment hs => (hrest segment hs).isSlash
  rw [resolved, trail, hslash, Option.getD_some, trailFromRoot, hcut, resolve_of_isPlain h,
    List.append_nil, List.reverse_reverse]

theorem isPathText_text (hne : list ≠ []) (h : ∀ segment ∈ list, IsPlain segment) :
    IsPathText (text (.segments list)) := by
  obtain ⟨first, rest, rfl⟩ := List.exists_cons_of_ne_nil hne
  refine ⟨rfl, fun c hc => ?_⟩
  obtain ⟨segment, hs, hmem⟩ := List.mem_flatMap.1 hc
  rcases List.mem_cons.1 hmem with rfl | hmem
  · decide
  · exact ⟨fun heq => (h segment hs).not_mem (by decide) (heq ▸ hmem),
      fun heq => (h segment hs).not_mem (by decide) (heq ▸ hmem)⟩

/-- All of its characters are read. -/
theorem isEdge_text (h : ∀ segment ∈ list, IsPlain segment) :
    ∀ c ∈ text (.segments list), isEdge c = false := by
  intro c hc
  obtain ⟨segment, hs, hmem⟩ := List.mem_flatMap.1 hc
  rcases List.mem_cons.1 hmem with rfl | hmem
  · rfl
  · exact isEdge_of_isUnreserved ((h segment hs).unreserved c hmem)

end Path

end Segments

end TextMate.Url
