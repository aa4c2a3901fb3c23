import TextMate.Proofs.Classification
import TextMate.Proofs.Text
import TextMate.Report.Text

/-! A report in colour, and what is left of it without its escape sequences. -/
namespace TextMate.Text

/-- What stands behind a bracket, digits and an `m`. -/
def behindCode? : List Char → Option (List Char)
  | '[' :: cs =>
    match cs.span Char.isDigit with
    | (_ :: _, 'm' :: rest) => some rest
    | _ => none
  | _ => none

theorem length_behindCode? {cs rest : List Char} (h : behindCode? cs = some rest) :
    rest.length < cs.length := by
  unfold behindCode? at h
  split at h
  · rename_i cs
    have hspan := List.span_eq_takeWhile_dropWhile Char.isDigit cs
    have hsuffix := (List.dropWhile_suffix Char.isDigit (l := cs)).length_le
    split at h
    · rename_i d ds rest' heq
      cases h
      rw [hspan, Prod.mk.injEq] at heq
      rw [heq.2] at hsuffix
      simp only [List.length_cons] at hsuffix ⊢
      omega
    · cases h
  · cases h

/-- What is left of a text when every `ESC [ digits m` in it is deleted. -/
def withoutCodes : List Char → List Char
  | [] => []
  | c :: cs =>
    if c = '\x1b' then
      match _h : behindCode? cs with
      | some rest => withoutCodes rest
      | none => c :: withoutCodes cs
    else c :: withoutCodes cs
termination_by cs => cs.length
decreasing_by
  · have := length_behindCode? ‹_›
    simp only [List.length_cons]
    omega
  all_goals simp

theorem withoutCodes_cons {c : Char} (h : c ≠ '\x1b') (cs : List Char) :
    withoutCodes (c :: cs) = c :: withoutCodes cs := by
  rw [withoutCodes, if_neg h]

theorem withoutCodes_append {cs : List Char} (h : '\x1b' ∉ cs) (rest : List Char) :
    withoutCodes (cs ++ rest) = cs ++ withoutCodes rest := by
  induction cs with
  | nil => rfl
  | cons c cs ih =>
    obtain ⟨hc, hcs⟩ := not_or.1 (mt List.mem_cons.2 h)
    rw [List.cons_append, withoutCodes_cons (Ne.symm hc), ih hcs, List.cons_append]

theorem withoutCodes_code {digits : List Char} (hne : digits ≠ [])
    (hdigits : ∀ d ∈ digits, d.isDigit = true) (rest : List Char) :
    withoutCodes ('\x1b' :: '[' :: (digits ++ 'm' :: rest)) = withoutCodes rest := by
  have hspan : (digits ++ 'm' :: rest).span Char.isDigit = (digits, 'm' :: rest) :=
    span_append hdigits rfl
  obtain ⟨d, ds, rfl⟩ := List.exists_cons_of_ne_nil hne
  have hbehind : behindCode? ('[' :: (d :: ds ++ 'm' :: rest)) = some rest := by
    simp only [behindCode?, hspan]
  rw [withoutCodes, if_pos rfl]
  split
  · rename_i rest' heq
    rw [hbehind] at heq
    cases heq
    rfl
  · rename_i heq
    rw [hbehind] at heq
    cases heq

end TextMate.Text

namespace TextMate

/-- The second text is the first one without its codes, whatever stands behind them. -/
def Painted (colored plain : String) : Prop :=
  ∀ rest, Text.withoutCodes (colored.toList ++ rest) = plain.toList ++ Text.withoutCodes rest

/-- A text without the character that codes begin with. -/
def NoEscape (s : String) : Prop := '\x1b' ∉ s.toList

instance (s : String) : Decidable (NoEscape s) := inferInstanceAs (Decidable (_ ∉ _))

section Plain

variable {s t : String}

theorem NoEscape.append (hs : NoEscape s) (ht : NoEscape t) : NoEscape (s ++ t) := by
  unfold NoEscape
  rw [String.toList_append, List.mem_append, not_or]
  exact ⟨hs, ht⟩

theorem noEscape_ofList {cs : List Char} (h : '\x1b' ∉ cs) : NoEscape (.ofList cs) := by
  unfold NoEscape
  rwa [String.toList_ofList]

theorem noEscape_toString (n : Nat) : NoEscape (toString n) := by
  intro hmem
  exact absurd (Text.isDigit_of_mem_toString hmem) (by decide)

theorem not_mem_replicate {c : Char} (h : '\x1b' ≠ c) (n : Nat) :
    '\x1b' ∉ List.replicate n c :=
  fun hmem => h (List.eq_of_mem_replicate hmem)

theorem noEscape_spaces (n : Nat) : NoEscape (.ofList (List.replicate n ' ')) :=
  noEscape_ofList (not_mem_replicate (by decide) n)

theorem noEscape_padLeft (width : Nat) (hs : NoEscape s) : NoEscape (Report.padLeft width s) :=
  (noEscape_spaces _).append hs

theorem noEscape_padRight (width : Nat) (hs : NoEscape s) : NoEscape (Report.padRight width s) :=
  hs.append (noEscape_spaces _)

theorem noEscape_intercalate {names : List String} (hs : NoEscape s)
    (hnames : ∀ name ∈ names, NoEscape name) : NoEscape (s.intercalate names) := by
  induction names with
  | nil => exact List.not_mem_nil
  | cons name rest ih =>
    obtain ⟨hname, hrest⟩ := List.forall_mem_cons.1 hnames
    cases rest with
    | nil => exact hname
    | cons next rest =>
      rw [String.intercalate_cons_cons]
      exact (hname.append hs).append (ih hrest)

theorem noEscape_fractionText (places value : Nat) : NoEscape (fractionText places value) := by
  unfold fractionText
  generalize hpadded : List.replicate (places - (toString value).toList.length) '0' ++
    (toString value).toList = padded
  have hplain : '\x1b' ∉ padded := by
    rw [← hpadded, List.mem_append, not_or]
    exact ⟨not_mem_replicate (by decide) _, noEscape_toString value⟩
  have hkept : '\x1b' ∉ (padded.reverse.dropWhile (· = '0')).reverse := by
    intro hmem
    have hdropped := (List.dropWhile_sublist _).subset (List.mem_reverse.1 hmem)
    exact hplain (List.mem_reverse.1 hdropped)
  dsimp only
  rw [hpadded]
  split
  · decide
  · exact NoEscape.append (by decide) (noEscape_ofList hkept)

theorem noEscape_durationText (nanoseconds : Nat) : NoEscape (durationText nanoseconds) := by
  have hunit : ∀ size places unit, NoEscape unit →
      NoEscape (toString (nanoseconds / size) ++
        fractionText places (nanoseconds % size) ++ unit) := by
    intro size places unit h
    exact ((noEscape_toString _).append (noEscape_fractionText _ _)).append h
  unfold durationText
  dsimp only
  split_ifs
  · exact hunit _ _ _ (by decide)
  · exact hunit _ _ _ (by decide)
  · exact hunit _ _ _ (by decide)
  · exact (noEscape_toString _).append (by decide)

end Plain

namespace Painted

variable {s t s' t' : String}

theorem refl (h : NoEscape s) : Painted s s := Text.withoutCodes_append h

theorem append (h : Painted s t) (h' : Painted s' t') : Painted (s ++ s') (t ++ t') := by
  intro rest
  rw [String.toList_append, String.toList_append, List.append_assoc, List.append_assoc, h, h']

theorem code {digits : String} (hne : digits.toList ≠ [])
    (hdigits : ∀ d ∈ digits.toList, d.isDigit = true) : Painted (escapeSequence digits) "" := by
  intro rest
  have hcode : (escapeSequence digits).toList ++ rest =
      '\x1b' :: '[' :: (digits.toList ++ 'm' :: rest) := by
    simp [escapeSequence]
  rw [hcode]
  exact Text.withoutCodes_code hne hdigits rest

/-- Colours may stand inside of each other. -/
theorem apply (style : Style) (h : Painted s t) :
    Painted (style.apply true s) (style.apply false t) := by
  have hstart : Painted (escapeSequence style.code) "" := by
    cases style <;> exact code (by decide) (by simp [Style.code])
  have hend : Painted (escapeSequence "0") "" := code (by decide) (by simp)
  have hall := (hstart.append h).append hend
  rwa [String.empty_append, String.append_empty] at hall

theorem join {xs ys : List String} (h : List.Forall₂ Painted xs ys) :
    Painted (String.join xs) (String.join ys) := by
  intro rest
  rw [String.toList_join, String.toList_join]
  induction h with
  | nil => rfl
  | cons hhead _ ih =>
    rw [List.flatMap_cons, List.flatMap_cons, List.append_assoc, List.append_assoc, hhead, ih]

end Painted

namespace Report

/-- The texts of a grammar and of a report on it that the report shows. -/
def shownTexts (r : Report) (g : Grammar) : List String :=
  g.name :: g.scopeName ::
    (r.counts.table.keys ++ r.inlined ++ r.shared ++ r.pruned ++ r.findings.map (·.rule))

theorem painted_countLine {use : String × Nat} (h : NoEscape use.1) :
    Painted (countLine true use) (countLine false use) := by
  have hcount : NoEscape (padLeft 4 (toString use.2) ++ "×") :=
    (noEscape_padLeft 4 (noEscape_toString use.2)).append (by decide)
  have hgreen := Painted.apply .green (.refl hcount)
  have hblue := Painted.apply .blue (.refl h)
  exact (((Painted.refl (by decide)).append hgreen).append (.refl (by decide))).append hblue

theorem painted_countLines {counts : UseCounts} (h : ∀ name ∈ counts.table.keys, NoEscape name) :
    List.Forall₂ Painted (countLines true counts) (countLines false counts) := by
  have hlines : ∀ use ∈ sharedCounts counts,
      Painted (countLine true use) (countLine false use) := by
    intro use huse
    have hentry := List.mem_of_mem_filter ((List.mergeSort_perm _ _).mem_iff.1 huse)
    exact painted_countLine (h use.1 (List.mem_map_of_mem hentry))
  have hsingle : NoEscape
      (toString (counts.size - (sharedCounts counts).length) ++ " rule(s) referenced once") :=
    (noEscape_toString _).append (by decide)
  refine List.rel_append ?_ (.cons ?_ .nil)
  · rw [List.forall₂_map_left_iff, List.forall₂_map_right_iff]
    exact List.forall₂_same.2 hlines
  · exact (Painted.refl (by decide)).append (.apply .dim (.refl hsingle))

theorem painted_namesLine {label : String} {names : List String} (style : Style)
    (hlabel : NoEscape label) (h : ∀ name ∈ names, NoEscape name) :
    Painted (namesLine true label names style) (namesLine false label names style) := by
  have hlisted : NoEscape (if names.isEmpty then "-"
      else ", ".intercalate names ++ " (" ++ toString names.length ++ ")") := by
    split
    · decide
    · exact (((noEscape_intercalate (by decide) h).append (by decide)).append
        (noEscape_toString _)).append (by decide)
  have hstyle := Painted.apply style (.refl (noEscape_padRight 9 hlabel))
  have hdim := Painted.apply .dim (.refl hlisted)
  exact (((Painted.refl (by decide)).append hstyle).append (.refl (by decide))).append hdim

theorem painted_repositoryLines {r : Report} (hinlined : ∀ name ∈ r.inlined, NoEscape name)
    (hshared : ∀ name ∈ r.shared, NoEscape name) (hpruned : ∀ name ∈ r.pruned, NoEscape name) :
    List.Forall₂ Painted (repositoryLines true r) (repositoryLines false r) := by
  have hreferenced : NoEscape ("(" ++ toString r.referenced ++ " referenced)") :=
    (NoEscape.append (by decide) (noEscape_toString _)).append (by decide)
  have hbefore := Painted.apply .yellow (.refl (noEscape_toString r.entriesBefore))
  have harrow : Painted (Style.dim.apply true "entries →") (Style.dim.apply false "entries →") :=
    .apply .dim (.refl (by decide))
  have hafter := Painted.apply .green (.refl (noEscape_toString r.entriesAfter))
  have hused := Painted.apply .dim (.refl hreferenced)
  have hspace : Painted " " " " := .refl (by decide)
  refine .cons ?_ (.cons ?_ (.cons ?_ (.cons ?_ .nil)))
  · exact (((((((Painted.refl (by decide)).append hbefore).append hspace).append harrow).append
      hspace).append hafter).append hspace).append hused
  · exact painted_namesLine .blue (by decide) hinlined
  · exact painted_namesLine .green (by decide) hshared
  · exact painted_namesLine .yellow (by decide) hpruned

theorem painted_findingLines {findings : List Finding} (h : ∀ f ∈ findings, NoEscape f.rule) :
    List.Forall₂ Painted (findingLines true findings) (findingLines false findings) := by
  have hmessage : ∀ f ∈ findings, NoEscape f.message := by
    intro f hf
    unfold Finding.message
    cases f.kind with
    | unused => exact NoEscape.append (by decide) (h f hf)
    | singleUse => exact NoEscape.append (by decide) (h f hf)
  have hmark : ∀ kind, NoEscape (findingMark kind) := by
    intro kind
    cases kind <;> decide
  unfold findingLines
  split
  · exact .cons (.apply .dim (.refl (by decide))) .nil
  · rw [List.forall₂_map_left_iff, List.forall₂_map_right_iff]
    refine List.forall₂_same.2 fun f hf => ?_
    exact (((Painted.refl (by decide)).append (.apply .yellow (.refl (hmark f.kind)))).append
      (.refl (by decide))).append (.refl (hmessage f hf))

theorem painted_timingLine (e : Elapsed) : Painted (timingLine true e) (timingLine false e) := by
  have hduration : ∀ (style : Style) nanoseconds,
      Painted (style.apply true (durationText nanoseconds))
        (style.apply false (durationText nanoseconds)) :=
    fun style nanoseconds => .apply style (.refl (noEscape_durationText nanoseconds))
  exact (((((Painted.refl (by decide)).append (hduration .green e.total)).append
    (.refl (by decide))).append (hduration .cyan e.counting)).append (.refl (by decide))).append
    (hduration .dim e.compaction)

theorem painted_title {g : Grammar} (hname : NoEscape g.name) (hscope : NoEscape g.scopeName) :
    Painted (title true g) (title false g) := by
  have htext : NoEscape ("⚙  Compacting: " ++ g.name ++ " (" ++ g.scopeName ++ ")") :=
    (((NoEscape.append (by decide) hname).append (by decide)).append hscope).append (by decide)
  exact .apply .bold (.apply .cyan (.refl htext))

theorem painted_block (heading : String) {lines lines' : List String}
    (hheading : NoEscape heading) (h : List.Forall₂ Painted lines lines') :
    List.Forall₂ Painted (block true heading lines) (block false heading lines') := by
  have hline : NoEscape ("━━━ " ++ heading ++ " ━━━") :=
    (NoEscape.append (by decide) hheading).append (by decide)
  exact .cons (.refl (by decide)) (.cons (.apply .gray (.refl hline)) h)

theorem painted_lines {r : Report} {g : Grammar} (h : ∀ s ∈ r.shownTexts g, NoEscape s)
    (e : Elapsed) : List.Forall₂ Painted (r.lines g e true) (r.lines g e false) := by
  simp only [shownTexts, List.forall_mem_cons, List.forall_mem_append, List.forall_mem_map] at h
  obtain ⟨hname, hscope, ⟨⟨⟨hcounts, hinlined⟩, hshared⟩, hpruned⟩, hfindings⟩ := h
  have hreferences := painted_block "References" (by decide)
    (painted_countLines hcounts)
  have hrepository := painted_block "Repository" (by decide)
    (painted_repositoryLines hinlined hshared hpruned)
  have hdiagnostics := painted_block "Diagnostics" (by decide)
    (painted_findingLines hfindings)
  have hempty : Painted "" "" := .refl (by decide)
  have htiming := painted_block "Timing" (by decide)
    (.cons (painted_timingLine e) (.cons hempty .nil))
  have hblocks := List.rel_append (List.rel_append (List.rel_append hreferences hrepository)
    hdiagnostics) htiming
  exact .cons hempty (.cons (painted_title hname hscope) hblocks)

/--
If no text that a report shows holds an escape character, then the report in colour is the report
without colour, but for codes that can be deleted.
-/
theorem withoutCodes_text (r : Report) (g : Grammar) (e : Elapsed)
    (h : ∀ s ∈ r.shownTexts g, '\x1b' ∉ s.toList) :
    Text.withoutCodes (r.text g e true).toList = (r.text g e false).toList := by
  have hlines : List.Forall₂ Painted ((r.lines g e true).map (· ++ "\n"))
      ((r.lines g e false).map (· ++ "\n")) := by
    rw [List.forall₂_map_left_iff, List.forall₂_map_right_iff]
    exact (painted_lines h e).imp fun _ _ hline => hline.append (.refl (by decide))
  have htext := Painted.join hlines []
  rwa [List.append_nil, Text.withoutCodes, List.append_nil] at htext

/-- What looks like a code without its escape character stays. -/
theorem withoutCodes_text_bracketed :
    let g : Grammar := { Grammar.circular with name := "[31m", scopeName := "0m" }
    (∀ s ∈ Report.circular.shownTexts g, '\x1b' ∉ s.toList) ∧
    Text.withoutCodes (Report.circular.text g {} true).toList =
      (Report.circular.text g {} false).toList := by
  intro g
  have h : ∀ s ∈ Report.circular.shownTexts g, NoEscape s := by decide
  exact ⟨h, withoutCodes_text .circular g {} h⟩

end Report

end TextMate
