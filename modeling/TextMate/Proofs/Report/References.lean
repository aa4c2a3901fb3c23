import TextMate.Proofs.Classification
import TextMate.Proofs.Text
import TextMate.Report.Text

/-! What a report prints about the use counts, and what a run has done with the names in it. -/
namespace TextMate

namespace Report

section Order

variable {a b : String × Nat}

theorem moreUsed_iff : moreUsed a b = true ↔ b.2 < a.2 ∨ a.2 = b.2 ∧ a.1 ≤ b.1 := by
  simp [moreUsed]

theorem moreUsed_trans (a b c : String × Nat) (hab : moreUsed a b = true)
    (hbc : moreUsed b c = true) : moreUsed a c = true := by
  rw [moreUsed_iff] at hab hbc ⊢
  rcases hab with hab | ⟨hab, hname⟩
  · left
    omega
  · rcases hbc with hbc | ⟨hbc, hname'⟩
    · left
      omega
    · right
      exact ⟨hab.trans hbc, String.le_trans hname hname'⟩

theorem moreUsed_total (a b : String × Nat) : (moreUsed a b || moreUsed b a) = true := by
  rw [Bool.or_eq_true, moreUsed_iff, moreUsed_iff]
  have hname : a.1 ≤ b.1 ∨ b.1 ≤ a.1 := String.le_total a.1 b.1
  rcases Nat.lt_trichotomy a.2 b.2 with hlt | heq | hgt
  · exact .inr (.inl hlt)
  · exact hname.imp (fun h => .inr ⟨heq, h⟩) (fun h => .inr ⟨heq.symm, h⟩)
  · exact .inl (.inl hgt)

end Order

section Shared

variable {counts : UseCounts}

theorem sharedCounts_perm (counts : UseCounts) :
    (sharedCounts counts).Perm (counts.toList.filter fun use => 2 ≤ use.2) :=
  List.mergeSort_perm _ _

theorem mem_sharedCounts_iff {use : String × Nat} :
    use ∈ sharedCounts counts ↔ 2 ≤ use.2 ∧ counts.get use.1 = use.2 := by
  rw [(sharedCounts_perm counts).mem_iff, List.mem_filter, UseCounts.mem_toList_iff,
    decide_eq_true_eq]
  omega

theorem names_sharedCounts_nodup (counts : UseCounts) :
    ((sharedCounts counts).map (·.1)).Nodup := by
  have hnames : ((sharedCounts counts).map (·.1)).Perm
      ((counts.toList.filter fun use => 2 ≤ use.2).map (·.1)) := (sharedCounts_perm counts).map _
  have hsublist := (List.filter_sublist (p := fun use => 2 ≤ use.2) (l := counts.toList)).map (·.1)
  exact hnames.nodup_iff.2 (counts.names_toList_nodup.sublist hsublist)

end Shared

/--
A line that shows a name and its count: the count flush right in four columns or more, a sign for
the number of times, and the name.
-/
def ShowsUse (colored : Bool) (name : String) (count : Nat) (line : String) : Prop :=
  ∃ blanks : String, (∀ c ∈ blanks.toList, c = ' ') ∧
    blanks.length + (toString count).length = max 4 (toString count).length ∧
    line = "  " ++ Style.green.apply colored (blanks ++ toString count ++ "×") ++ " " ++
      Style.blue.apply colored name

section Lines

variable {colored : Bool} {a b line : String} {m n : Nat}

theorem showsUse_countLine (colored : Bool) (name : String) (count : Nat) :
    ShowsUse colored name count (countLine colored (name, count)) := by
  refine ⟨.ofList (List.replicate (4 - (toString count).length) ' '), fun c hc => ?_, ?_, rfl⟩
  · rw [String.toList_ofList] at hc
    exact List.eq_of_mem_replicate hc
  · rw [String.length_ofList, List.length_replicate]
    omega

/-- The same characters stand around the two texts of every line. -/
theorem exists_toList_line (colored : Bool) :
    ∃ before between after : List Char, ∀ text name : String,
      ("  " ++ Style.green.apply colored (text ++ "×") ++ " " ++
        Style.blue.apply colored name).toList =
          before ++ (text.toList ++ '×' :: (between ++ (name.toList ++ after))) := by
  cases colored with
  | false => exact ⟨"  ".toList, " ".toList, [], fun text name => by simp [Style.apply]⟩
  | true =>
    exact ⟨"  ".toList ++ (escapeSequence Style.green.code).toList,
      (escapeSequence "0").toList ++ " ".toList ++ (escapeSequence Style.blue.code).toList,
      (escapeSequence "0").toList, fun text name => by simp [Style.apply]⟩

section Count

variable {blanks : String} (h : ∀ c ∈ blanks.toList, c = ' ') (n : Nat)
include h

theorem span_count (rest : List Char) :
    ((blanks ++ toString n).toList ++ '×' :: rest).span (fun c => decide (c ≠ '×')) =
      ((blanks ++ toString n).toList, '×' :: rest) := by
  refine Text.span_append (fun c hc => ?_) (by decide)
  rw [decide_eq_true_eq]
  rintro rfl
  rw [String.toList_append, List.mem_append] at hc
  rcases hc with hblank | hdigit
  · exact absurd (h _ hblank) (by decide)
  · exact absurd (Text.isDigit_of_mem_toString hdigit) (by decide)

theorem dropWhile_count :
    (blanks ++ toString n).toList.dropWhile (fun c => decide (c = ' ')) = (toString n).toList := by
  rw [String.toList_append, List.dropWhile_append_of_pos (by simpa using h),
    List.dropWhile_eq_self_iff]
  intro hpos hblank
  have hdigit := Text.isDigit_of_mem_toString (List.getElem_mem hpos)
  rw [of_decide_eq_true hblank] at hdigit
  exact absurd hdigit (by decide)

end Count

/-- The sign ends the count, and blanks are no digits. -/
theorem ShowsUse.unique (ha : ShowsUse colored a m line) (hb : ShowsUse colored b n line) :
    a = b ∧ m = n := by
  obtain ⟨blanks, hblanks, -, hline⟩ := ha
  obtain ⟨blanks', hblanks', -, hline'⟩ := hb
  obtain ⟨before, between, after, htoList⟩ := exists_toList_line colored
  have hlists := congrArg String.toList (hline.symm.trans hline')
  rw [htoList, htoList, List.append_cancel_left_eq] at hlists
  have hspan := congrArg (List.span fun c => decide (c ≠ '×')) hlists
  rw [span_count hblanks, span_count hblanks', Prod.mk.injEq] at hspan
  constructor
  · exact String.toList_inj.1 (by simpa using hspan.2)
  · have hdigits := congrArg (List.dropWhile fun c => decide (c = ' ')) hspan.1
    rw [dropWhile_count hblanks, dropWhile_count hblanks', String.toList_inj] at hdigits
    exact Nat.repr_inj.1 hdigits

end Lines

end Report

/-- Names used more than once, the most used first and those used equally often in name order. -/
structure UseCounts.Ranked (counts : UseCounts) (names : List String) : Prop where
  shared : ∀ name, name ∈ names ↔ 2 ≤ counts.get name
  nodup : names.Nodup
  ordered : names.Pairwise fun a b =>
    counts.get b < counts.get a ∨ counts.get a = counts.get b ∧ a < b

namespace Report

variable {counts : UseCounts}

theorem ranked_sharedCounts (counts : UseCounts) :
    counts.Ranked ((sharedCounts counts).map (·.1)) where
  shared name := by
    rw [List.mem_map]
    constructor
    · rintro ⟨use, huse, rfl⟩
      obtain ⟨htwo, hget⟩ := mem_sharedCounts_iff.1 huse
      omega
    · intro htwo
      exact ⟨(name, counts.get name), mem_sharedCounts_iff.2 ⟨htwo, rfl⟩, rfl⟩
  nodup := names_sharedCounts_nodup counts
  ordered := by
    have hsorted : (sharedCounts counts).Pairwise fun a b => moreUsed a b = true :=
      List.pairwise_mergeSort moreUsed_trans moreUsed_total _
    have hnames := List.pairwise_map.1 (names_sharedCounts_nodup counts)
    refine List.pairwise_map.2 ((hsorted.and hnames).imp_of_mem ?_)
    rintro a b ha hb ⟨hle, hne⟩
    obtain ⟨-, hgeta⟩ := mem_sharedCounts_iff.1 ha
    obtain ⟨-, hgetb⟩ := mem_sharedCounts_iff.1 hb
    rw [hgeta, hgetb]
    rcases moreUsed_iff.1 hle with hlt | ⟨heq, hname⟩
    · exact .inl hlt
    · exact .inr ⟨heq, lt_of_le_of_ne hname hne⟩

/-- The names left beside the shared ones are those used once, because no name has a zero. -/
theorem exists_once (counts : UseCounts) :
    ∃ once : List String, once.Nodup ∧ (∀ name, name ∈ once ↔ counts.get name = 1) ∧
      (sharedCounts counts).length + once.length = counts.size := by
  have hlength := List.length_eq_length_filter_add (l := counts.toList) fun use => 2 ≤ use.2
  refine ⟨(counts.toList.filter fun use => !decide (2 ≤ use.2)).map (·.1), ?_, ?_, ?_⟩
  · exact counts.names_toList_nodup.sublist (List.filter_sublist.map _)
  · intro name
    rw [List.mem_map]
    constructor
    · rintro ⟨use, huse, rfl⟩
      rw [List.mem_filter, UseCounts.mem_toList_iff] at huse
      have hfew : ¬ 2 ≤ use.2 := by simpa using huse.2
      omega
    · intro hone
      have hentry : (name, 1) ∈ counts.toList := UseCounts.mem_toList_iff.2 ⟨Nat.one_pos, hone⟩
      exact ⟨(name, 1), List.mem_filter.2 ⟨hentry, rfl⟩, rfl⟩
  · rw [(sharedCounts_perm counts).length_eq, List.length_map, ← hlength]
    rfl

/-- Every name has its line, and no line shows anything else. -/
structure ListsUses (colored : Bool) (counts : UseCounts) (names lines : List String) : Prop where
  each : List.Forall₂ (fun name line => ShowsUse colored name (counts.get name) line) names lines
  only : ∀ line ∈ lines, ∀ name count, ShowsUse colored name count line →
    name ∈ names ∧ count = counts.get name

theorem listsUses_sharedCounts (colored : Bool) (counts : UseCounts) :
    ListsUses colored counts ((sharedCounts counts).map (·.1))
      ((sharedCounts counts).map (countLine colored)) := by
  have hshows : ∀ use ∈ sharedCounts counts,
      ShowsUse colored use.1 (counts.get use.1) (countLine colored use) := by
    intro use huse
    rw [(mem_sharedCounts_iff.1 huse).2]
    exact showsUse_countLine colored use.1 use.2
  constructor
  · rw [List.forall₂_map_left_iff, List.forall₂_map_right_iff]
    exact List.forall₂_same.2 hshows
  · intro line hline name count hshown
    obtain ⟨use, huse, rfl⟩ := List.mem_map.1 hline
    obtain ⟨rfl, hcount⟩ := hshown.unique (hshows use huse)
    exact ⟨List.mem_map_of_mem huse, hcount⟩

theorem countLines_eq (colored : Bool) {number : Nat}
    (h : (sharedCounts counts).length + number = counts.size) :
    countLines colored counts = (sharedCounts counts).map (countLine colored) ++
      ["  " ++ Style.dim.apply colored (toString number ++ " rule(s) referenced once")] := by
  have hnumber : counts.size - (sharedCounts counts).length = number := by omega
  simp only [countLines, hnumber]

/--
A report has a line for each name used more than once and for no other name, ranked by use, and then
the number of the names used once. A line shows its name and how often it is used, and nothing else
can be read from it. The number and the lines make up all names that are used. After a run the names
with a line are the shared entries, and as many names are used once as were inlined.
-/
theorem countLines_ranked (report : Report) (colored : Bool) :
    ∃ names lines once : List String,
      countLines colored report.counts =
        lines ++ ["  " ++ Style.dim.apply colored
          (toString once.length ++ " rule(s) referenced once")] ∧
      ListsUses colored report.counts names lines ∧
      report.counts.Ranked names ∧
      once.Nodup ∧ (∀ name, name ∈ once ↔ report.counts.get name = 1) ∧
      names.length + once.length = report.counts.size ∧
      ∀ (g : Grammar) (deny : FindingSet), (g.run deny).result = .ok report →
        once.length = report.inlined.length ∧ names.Perm report.shared := by
  obtain ⟨once, honce, hmem, hsize⟩ := exists_once report.counts
  have hranked := ranked_sharedCounts report.counts
  have hlists := listsUses_sharedCounts colored report.counts
  refine ⟨_, _, once, countLines_eq colored hsize, hlists, hranked, honce, hmem, ?_,
    fun g deny hrun => ?_⟩
  · rw [List.length_map, hsize]
  · obtain ⟨counts, c, hcount, hc, -, rfl⟩ := Grammar.exists_compaction_of_result hrun
    have hcounted := Repository.counted_of_countUses hcount
    have hplaces := (Compaction.keys_perm_of_ofCounts hc).nodup_iff.2 g.repository.keys_nodup
    have hinlined : c.inlined.Nodup := hplaces.of_append_left.of_append_left
    constructor
    · refine ((List.perm_ext_iff_of_nodup honce hinlined).2 fun name => ?_).length_eq
      exact (hmem name).trans (Grammar.mem_inlined_iff hcounted hc).symm
    · rw [Grammar.shared_ofCompaction hcounted hc]
      refine (List.perm_ext_iff_of_nodup hranked.nodup c.repository.keys_nodup).2 fun name => ?_
      exact (hranked.shared name).trans (Grammar.mem_kept_iff hcounted hc).symm

theorem countLines_ranked_circular :
    (Grammar.circular.run .none).result = .ok .circular ∧
    ∃ names lines once : List String,
      countLines true UseCounts.circular =
        lines ++ ["  " ++ Style.dim.apply true
          (toString once.length ++ " rule(s) referenced once")] ∧
      ListsUses true UseCounts.circular names lines ∧
      UseCounts.circular.Ranked names ∧
      once.length = Report.circular.inlined.length ∧ names.Perm Report.circular.shared := by
  have hrun : (Grammar.circular.run .none).result = .ok .circular := by cbv
  obtain ⟨names, lines, once, hlines, hlists, hranked, -, -, -, hrest⟩ :=
    countLines_ranked .circular true
  exact ⟨hrun, names, lines, once, hlines, hlists, hranked, hrest .circular .none hrun⟩

end Report

end TextMate
