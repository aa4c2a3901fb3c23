import TextMate.Proofs.Text
import TextMate.Url

/-! The segments of a parsed path hold no slash, so that the text of the path tells them. -/
namespace TextMate.Url

section Encoding

variable {cs : List Char}

theorem upperHexDigit_ne {n : Nat} (h : n < 16) : upperHexDigit n ≠ '/' := by
  revert n
  decide

theorem not_mem_encodeByte (b : UInt8) : '/' ∉ encodeByte b := by
  have hlow : b.toNat % 16 < 16 := Nat.mod_lt _ (by decide)
  have hhigh : b.toNat / 16 < 16 := by
    have := b.toNat_lt
    omega
  simp [encodeByte, (upperHexDigit_ne hlow).symm, (upperHexDigit_ne hhigh).symm]

theorem not_mem_percentEncode (set : Char → Bool) (h : '/' ∉ cs) : '/' ∉ percentEncode set cs := by
  unfold percentEncode
  rw [List.mem_flatMap]
  rintro ⟨c, hc, hmem⟩
  split at hmem
  · obtain ⟨b, -, hb⟩ := List.mem_flatMap.1 hmem
    exact not_mem_encodeByte b hb
  · exact h (List.mem_singleton.1 hmem ▸ hc)

/-- The first character is encoded, or it is the first one still. -/
theorem head?_percentEncode (set : Char → Bool) (h : cs.head? ≠ some '/') :
    (percentEncode set cs).head? ≠ some '/' := by
  cases cs with
  | nil => simp [percentEncode]
  | cons c rest =>
    have hc : c ≠ '/' := by simpa using h
    unfold percentEncode
    rw [List.flatMap_cons]
    split
    · have hne : String.utf8EncodeChar c ≠ [] := String.utf8EncodeChar_ne_nil
      obtain ⟨b, bytes, hbytes⟩ := List.exists_cons_of_ne_nil hne
      simp [hbytes, encodeByte]
    · simpa using hc

end Encoding

namespace Path

section Trails

variable {kind : SchemeKind} {t : Trail} {segment piece : List Char} {pieces : List (List Char)}

/-- No slash is in a segment. -/
def Trail.Divided (t : Trail) : Prop := ∀ segment ∈ t.segments, '/' ∉ segment

theorem Trail.Divided.push (h : t.Divided) (hsegment : '/' ∉ segment) :
    (t.push segment).Divided :=
  List.forall_mem_cons.2 ⟨hsegment, h⟩

theorem Trail.Divided.up (h : t.Divided) : t.up.Divided := by
  unfold Trail.up
  cases hsegments : t.segments with
  | nil => exact h
  | cons last rest =>
    unfold Trail.Divided at h
    rw [hsegments] at h
    simp only
    split
    · unfold Trail.Divided
      rw [hsegments]
      exact h
    · exact (List.forall_mem_cons.1 h).2

theorem Trail.Divided.append (h : t.Divided) (hsegment : '/' ∉ segment) :
    (t.append kind segment).Divided := by
  unfold Trail.append
  split
  · have hdrive : '/' ∉ segment.take 1 ++ [':'] := by
      have htake : '/' ∉ segment.take 1 := fun hmem => hsegment (List.mem_of_mem_take hmem)
      simp [htake]
    exact List.forall_mem_singleton.2 hdrive
  · exact h.push hsegment

theorem Trail.Divided.enter (h : t.Divided) (final : Bool) (hsegment : '/' ∉ segment) :
    (t.enter kind final segment).Divided := by
  unfold Trail.enter
  split
  · split
    · exact h.up.push List.not_mem_nil
    · exact h.up
  · split
    · exact h.push List.not_mem_nil
    · exact h
  · exact h.append hsegment

theorem not_mem_withoutBreaks (h : '/' ∉ piece) : '/' ∉ withoutBreaks piece :=
  fun hmem => h (List.mem_filter.1 hmem).1

theorem not_mem_of_cutBehindDrive {drive rest : List Char}
    (h : cutBehindDrive piece = some (drive, rest)) (hpiece : '/' ∉ piece) :
    '/' ∉ drive ∧ '/' ∉ rest := by
  have hbreaks := not_mem_withoutBreaks hpiece
  unfold cutBehindDrive at h
  split at h
  · rename_i letter c rest heq
    rw [heq] at hbreaks
    split at h
    · cases h
      simp_all
    · cases h
  · cases h

/-- One piece after the other leaves no slash in a segment. -/
theorem Trail.Divided.resolve (h : t.Divided) (hpieces : ∀ piece ∈ pieces, '/' ∉ piece) :
    (resolve kind t pieces).Divided := by
  induction pieces generalizing t with
  | nil => exact h
  | cons piece rest ih =>
    obtain ⟨hpiece, hrest⟩ := List.forall_mem_cons.1 hpieces
    unfold Path.resolve
    split
    · rename_i drive behind heq
      split at heq
      · obtain ⟨hdrive, hbehind⟩ := not_mem_of_cutBehindDrive heq hpiece
        exact ih ((h.push hdrive).push (not_mem_percentEncode _ hbehind)) hrest
      · cases heq
    · have hsegment := not_mem_percentEncode inPathSet (not_mem_withoutBreaks hpiece)
      exact ih (h.enter rest.isEmpty hsegment) hrest

theorem cut_eq_splitOnP (kind : SchemeKind) (cs : List Char) :
    cut kind cs = cs.splitOnP (isSlash kind) := by
  induction cs with
  | nil => rfl
  | cons c rest ih =>
    have hne : rest.splitOnP (isSlash kind) ≠ [] := List.splitOnP_ne_nil _ _
    rw [cut, ih, List.splitOnP_cons_eq_if_modifyHead]
    cases h : rest.splitOnP (isSlash kind) with
    | nil => exact absurd h hne
    | cons first others => rfl

theorem divided_trailFromRoot (kind : SchemeKind) (cs : List Char) :
    (trailFromRoot kind cs).Divided := by
  have hstart : ({} : Trail).Divided := fun _ h => absurd h List.not_mem_nil
  refine hstart.resolve fun piece hpiece hmem => ?_
  rw [cut_eq_splitOnP] at hpiece
  have hslash := Text.eq_false_of_mem_splitOnP hpiece '/' hmem
  simp [isSlash] at hslash

theorem mem_dropEmpty {list : List (List Char)} (h : segment ∈ dropEmpty list) :
    segment ∈ list := by
  fun_induction dropEmpty list with
  | case1 next rest ih => exact List.mem_cons_of_mem _ (ih h)
  | case2 => exact h

end Trails

/-- The text of the path is cut at its slashes in the way that the path is divided. -/
def WellFormed : Path → Prop
  | .segments list => ∀ segment ∈ list, '/' ∉ segment
  | .plain text => text.head? ≠ some '/'

/-- A divided path without its first slash. -/
theorem pieces_segments {first : List Char} {list : List (List Char)} (hfirst : '/' ∉ first)
    (hlist : ∀ segment ∈ list, '/' ∉ segment) :
    Text.pieces '/' (first ++ list.flatMap ('/' :: ·)) = first :: list := by
  induction list generalizing first with
  | nil =>
    rw [List.flatMap_nil, List.append_nil]
    exact Text.pieces_eq_singleton hfirst
  | cons segment rest ih =>
    obtain ⟨hsegment, hrest⟩ := List.forall_mem_cons.1 hlist
    rw [List.flatMap_cons, List.cons_append, Text.pieces_append, Text.pieces_eq_singleton hfirst,
      ih hsegment hrest]
    rfl

end Path

section Parsing

variable {text scheme : String} {cs : List Char} {u : Url}

theorem wellFormed_fileUrl (host : Host) {trail : Path.Trail} (h : trail.Divided) (tail : Tail) :
    (fileUrl host trail tail).path.WellFormed := by
  intro segment hsegment
  exact h segment (List.mem_reverse.1 (Path.mem_dropEmpty hsegment))

theorem wellFormed_resolved (kind : SchemeKind) (cs : List Char) :
    Path.WellFormed (.segments (Path.resolved kind cs)) := by
  intro segment hsegment
  exact Path.divided_trailFromRoot kind _ segment (List.mem_reverse.1 hsegment)

theorem wellFormed_parseWeb (h : parseWeb scheme cs = .ok u) : u.path.WellFormed := by
  unfold parseWeb at h
  simp only [bind, Except.bind] at h
  split at h
  · cases h
  · cases h
    exact wellFormed_resolved _ _

theorem wellFormed_parseFileHost (h : parseFileHost cs = .ok u) : u.path.WellFormed := by
  have hdivided : ∀ (host : Host) (path : List Char),
      ((if host = .empty then Path.trailFromRoot else Path.trail) .file path).Divided := by
    intro host path
    split
    · exact Path.divided_trailFromRoot _ _
    · exact Path.divided_trailFromRoot _ _
  unfold parseFileHost at h
  simp only [bind, Except.bind] at h
  split at h
  · cases h
    exact wellFormed_fileUrl _ (hdivided .empty _) _
  · split at h
    · cases h
    · cases h
      exact wellFormed_fileUrl _ (hdivided _ _) _

theorem wellFormed_parseFile (h : parseFile cs = .ok u) : u.path.WellFormed := by
  unfold parseFile at h
  split at h
  · exact wellFormed_parseFileHost h
  · cases h
    exact wellFormed_fileUrl _ (Path.divided_trailFromRoot _ _) _

theorem head?_cutOff {mark : Char} (h : cs.head? ≠ some '/') :
    (cutOff mark cs).1.head? ≠ some '/' := by
  unfold cutOff
  split
  · rename_i before after hcut
    obtain ⟨rfl, -⟩ := Text.cutAt_eq_some_iff.1 hcut
    intro hbefore
    rw [List.head?_append, hbefore] at h
    exact h rfl
  · exact h

theorem wellFormed_parseOther (h : parseOther scheme cs = .ok u) : u.path.WellFormed := by
  unfold parseOther at h
  split at h
  · simp only [bind, Except.bind] at h
    split at h
    · cases h
    · cases h
      change Path.WellFormed (.segments _)
      split
      · exact fun _ hsegment => absurd hsegment List.not_mem_nil
      · exact wellFormed_resolved _ _
  · cases h
    exact wellFormed_resolved _ _
  · rename_i hslash
    cases h
    have hhead : cs.head? ≠ some '/' := by
      intro hhead
      obtain ⟨rest, rfl⟩ := List.head?_eq_some_iff.1 hhead
      exact hslash rest rfl
    exact head?_percentEncode _ (head?_cutOff (head?_cutOff hhead))

/-- The path of a URL is well formed. -/
theorem wellFormed_parse (h : Url.parse text = .ok u) : u.path.WellFormed := by
  unfold Url.parse at h
  split at h
  · cases h
  · rename_i scheme rest hcut
    split at h
    · exact wellFormed_parseWeb h
    · exact wellFormed_parseFile h
    · exact wellFormed_parseOther h

end Parsing

end TextMate.Url
