import TextMate.Proofs.Findings
import TextMate.Proofs.FixedPoint

/-! What a report tells of the entries, beside how often the grammar uses them. -/
namespace TextMate

open Classical in
/-- The number of includes of a name in the patterns and in the bodies that they reach. -/
noncomputable def Grammar.uses (g : Grammar) (name : String) : Nat :=
  (Rule.includesList g.patterns).count name +
    g.repository.usesIn (g.repository.Reachable g.patterns) name

namespace Grammar

variable {g : Grammar} {deny : FindingSet} {counts : UseCounts} {c : Compaction} {report : Report}
  {name : String}

theorem uses_eq (h : g.repository.Counted g.patterns counts) (name : String) :
    g.uses name = counts.get name := by
  classical
  rw [uses, h.get_eq, Repository.usesIn_congr _ name h.pos_iff]

/-- A report comes from a count and a compaction that have succeeded. -/
theorem exists_compaction_of_result (h : (g.run deny).result = .ok report) :
    ∃ counts c, g.repository.countUses g.patterns = .ok counts ∧
      Compaction.ofCounts counts g.patterns g.repository = .ok c ∧
      (g.run deny).grammar.repository = c.repository ∧
      report = .ofCompaction g counts c := by
  have hcompletes : (g.run deny).completes = true := by
    unfold Run.completes
    rw [h]
  obtain ⟨counts, hcount, hgrammar⟩ := exists_counts_of_completes hcompletes
  obtain ⟨c, hc⟩ := exists_compaction hcount
  refine ⟨counts, c, hcount, hc, ?_, ?_⟩
  · rw [hgrammar, Run.afterCount, hc]
  · unfold run at h
    split at h
    · cases h
    · simp only [hcount, Run.afterCount, hc] at h
      split_ifs at h
      exact (Except.ok.inj h).symm

section Entries

variable (hcounted : g.repository.Counted g.patterns counts)
  (hc : Compaction.ofCounts counts g.patterns g.repository = .ok c)
include hcounted hc

/-- The entries that are left are the shared ones. -/
theorem mem_kept_iff : name ∈ c.repository.keys ↔ 2 ≤ counts.get name := by
  obtain ⟨inlined, hin⟩ := hcounted.inlinable.exists_inlines
  have hg : g.Inlined counts inlined (Run.afterCount g .none counts).grammar :=
    inlined_afterCount hcounted hin
  rw [Run.afterCount, hc] at hg
  exact hg.mem_keys_iff hcounted

theorem mem_inlined_iff : name ∈ c.inlined ↔ counts.get name = 1 := by
  refine ⟨Compaction.inlined_of_ofCounts hc name, fun hone => ?_⟩
  obtain ⟨body, hb⟩ := hcounted.entry name (by omega)
  have hplace := (Compaction.keys_perm_of_ofCounts hc).mem_iff.2 (Table.mem_keys_of_get? hb)
  rw [List.mem_append, List.mem_append, mem_kept_iff hcounted hc,
    Compaction.pruned_of_ofCounts hc, List.mem_filter, decide_eq_true_eq] at hplace
  rcases hplace with (hin | ⟨-, hzero⟩) | htwo
  · exact hin
  · omega
  · omega

theorem mem_pruned_iff :
    name ∈ c.pruned ↔ name ∈ g.repository.keys ∧ ¬ g.repository.Reachable g.patterns name := by
  rw [Compaction.pruned_of_ofCounts hc, List.mem_filter, decide_eq_true_eq, ← hcounted.pos_iff,
    Nat.pos_iff_ne_zero, not_not]

/-- No entry used once is left to be found. -/
theorem findings_eq : c.findings = c.pruned.map (Finding.mk .unused) := by
  obtain ⟨hascending, hperm⟩ := Compaction.findings_of_ofCounts hc
  have hnone : (c.repository.keys.filter fun n => counts.get n = 1) = [] := by
    refine List.filter_eq_nil_iff.2 fun n hn => ?_
    have htwo := (mem_kept_iff hcounted hc).1 hn
    rw [decide_eq_true_eq]
    omega
  rw [hnone, List.map_nil, List.append_nil] at hperm
  have hpruned : (c.pruned.map (Finding.mk .unused)).Pairwise fun a b => a.rule < b.rule :=
    List.pairwise_map.2 (Compaction.pruned_ascending hc)
  exact hperm.eq_of_pairwise (fun a b _ _ hab hba => absurd hba (String.lt_asymm hab))
    hascending hpruned

/-- The names in use are those inlined and those left. -/
theorem size_counts : counts.size = c.inlined.length + c.repository.keys.length := by
  have hnodup := (Compaction.keys_perm_of_ofCounts hc).nodup_iff.2 g.repository.keys_nodup
  have hparts : (c.inlined ++ c.repository.keys).Nodup :=
    hnodup.sublist ((List.sublist_append_left _ _).append_right _)
  have hperm : counts.table.keys.Perm (c.inlined ++ c.repository.keys) := by
    refine (List.perm_ext_iff_of_nodup counts.table.keys_nodup hparts).2 fun name => ?_
    rw [List.mem_append, mem_inlined_iff hcounted hc, mem_kept_iff hcounted hc,
      UseCounts.mem_keys_table]
    omega
  have hlength := hperm.length_eq
  rw [List.length_append] at hlength
  rw [← hlength, Table.keys, List.length_map]
  rfl

theorem findings_ofCompaction :
    (Report.ofCompaction g counts c).findings = c.pruned.map (Finding.mk .unused) := by
  show Finding.sort c.findings = _
  rw [Finding.sort_eq_self (Compaction.findings_of_ofCounts hc).1, findings_eq hcounted hc]

theorem shared_ofCompaction :
    (Report.ofCompaction g counts c).shared = c.repository.keys :=
  List.filter_eq_self.2 fun _ hn => decide_eq_true ((mem_kept_iff hcounted hc).1 hn)

end Entries

/--
A report lists the entries used once as inlined, the entries used more often as shared, and the
others as pruned. Its findings are that the pruned entries are unused, and its numbers add up.
-/
theorem run_classifies (g : Grammar) (deny : FindingSet) (report : Report)
    (h : (g.run deny).result = .ok report) :
    report.inlined.Nodup ∧ (∀ name, name ∈ report.inlined ↔ g.uses name = 1) ∧
    report.shared = (g.run deny).grammar.repository.keys ∧
    (∀ name, name ∈ report.shared ↔ 2 ≤ g.uses name) ∧
    (∀ name, name ∈ report.pruned ↔
      name ∈ g.repository.keys ∧ ¬ g.repository.Reachable g.patterns name) ∧
    report.pruned.Pairwise (· < ·) ∧
    report.findings = report.pruned.map (Finding.mk .unused) ∧
    report.entriesBefore = g.repository.size ∧
    report.entriesAfter = (g.run deny).grammar.repository.size ∧
    report.entriesBefore = report.entriesAfter + report.inlined.length + report.pruned.length ∧
    report.referenced = report.inlined.length + report.shared.length ∧
    report.entriesAfter = report.shared.length := by
  obtain ⟨counts, c, hcount, hc, hrepository, hreport⟩ := exists_compaction_of_result h
  have hcounted := Repository.counted_of_countUses hcount
  have hshared : report.shared = c.repository.keys := by
    rw [hreport, shared_ofCompaction hcounted hc]
  have hperm := Compaction.keys_perm_of_ofCounts hc
  have hnodup := hperm.nodup_iff.2 g.repository.keys_nodup
  have hsize : c.repository.keys.length = c.repository.size := List.length_map _
  have hbefore : g.repository.size = c.repository.size + c.inlined.length + c.pruned.length := by
    have hlength := hperm.length_eq
    rw [List.length_append, List.length_append, hsize, Table.keys, List.length_map] at hlength
    rw [Table.size.eq_def g.repository, ← hlength]
    omega
  rw [hshared, hrepository]
  subst hreport
  refine ⟨hnodup.of_append_left.of_append_left, fun name => ?_, rfl, fun name => ?_,
    fun name => mem_pruned_iff hcounted hc, Compaction.pruned_ascending hc, ?_, rfl, rfl, hbefore,
    size_counts hcounted hc, hsize.symm⟩
  · rw [uses_eq hcounted]
    exact mem_inlined_iff hcounted hc
  · rw [uses_eq hcounted]
    exact mem_kept_iff hcounted hc
  · exact findings_ofCompaction hcounted hc

end Grammar

def Report.circular : Report where
  findings := [⟨.unused, "stale"⟩]
  counts := .circular
  referenced := 3
  entriesBefore := 4
  entriesAfter := 1
  inlined := ["argument", "wrapped"]
  shared := ["term"]
  pruned := ["stale"]

theorem Grammar.run_classifies_circular :
    (circular.run .none).result = .ok .circular ∧
    Report.circular.inlined.Nodup ∧
    (∀ name, name ∈ Report.circular.inlined ↔ circular.uses name = 1) ∧
    Report.circular.shared = (circular.run .none).grammar.repository.keys ∧
    (∀ name, name ∈ Report.circular.shared ↔ 2 ≤ circular.uses name) ∧
    (∀ name, name ∈ Report.circular.pruned ↔
      name ∈ circular.repository.keys ∧
        ¬ circular.repository.Reachable circular.patterns name) ∧
    Report.circular.pruned.Pairwise (· < ·) ∧
    Report.circular.findings = Report.circular.pruned.map (Finding.mk .unused) ∧
    Report.circular.entriesBefore = circular.repository.size ∧
    Report.circular.entriesAfter = (circular.run .none).grammar.repository.size ∧
    Report.circular.entriesBefore = Report.circular.entriesAfter +
      Report.circular.inlined.length + Report.circular.pruned.length ∧
    Report.circular.referenced = Report.circular.inlined.length + Report.circular.shared.length ∧
    Report.circular.entriesAfter = Report.circular.shared.length :=
  have h : (circular.run .none).result = .ok .circular := by cbv
  ⟨h, run_classifies circular .none .circular h⟩

end TextMate
