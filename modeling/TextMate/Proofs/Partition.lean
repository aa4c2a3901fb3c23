import TextMate.Proofs.Guard

/-! Where the entries end up, given any counts at all, and what is found about them. -/
namespace TextMate

namespace Compaction

variable {counts : UseCounts} {names : List String} {name : String}

section Findings

theorem findingOf?_unused (hcount : counts.get name = 0) :
    findingOf? counts name = some ⟨.unused, name⟩ := by
  simp only [findingOf?, hcount]

theorem findingOf?_shared (htwo : 2 ≤ counts.get name) : findingOf? counts name = none := by
  unfold findingOf?
  split
  · omega
  · omega
  · rfl

theorem rule_of_findingOf? {finding : Finding} (h : findingOf? counts name = some finding) :
    finding.rule = name := by
  unfold findingOf? at h
  split at h
  · cases h
    rfl
  · cases h
    rfl
  · cases h

/-- Among ascending names there is at most one finding about each, and they ascend too. -/
theorem findings_ascending (hnames : names.Pairwise (· < ·)) :
    (names.filterMap (findingOf? counts)).Pairwise fun a b => a.rule < b.rule := by
  refine List.pairwise_filterMap.2 (hnames.imp fun {a b} hlt f hf f' hf' => ?_)
  rwa [rule_of_findingOf? hf, rule_of_findingOf? hf']

/-- An unused name is found to be unused, a name used once to be used once, and that is all. -/
theorem findings_perm (counts : UseCounts) (names : List String) :
    (names.filterMap (findingOf? counts)).Perm
      ((names.filter fun n => counts.get n = 0).map (Finding.mk .unused) ++
        (names.filter fun n => counts.get n = 1).map (Finding.mk .singleUse)) := by
  induction names with
  | nil => exact .refl []
  | cons name rest ih =>
    by_cases hzero : counts.get name = 0
    · simpa [findingOf?_unused hzero, hzero] using ih
    · by_cases hone : counts.get name = 1
      · have hcons := (ih.cons ⟨.singleUse, name⟩).trans List.perm_middle.symm
        simpa [findingOf?_once hone, hone] using hcons
      · have htwo : 2 ≤ counts.get name := by omega
        simpa [findingOf?_shared htwo, hzero, hone] using ih

end Findings

section Pass

variable {patterns rules : List Rule} {repository : Repository} {s : State}

/-- Each entry is inlined or left behind by the pass, and is so once. -/
theorem pass_keys_perm
    (h : (pass counts patterns repository).run { repository } = .ok (rules, s)) :
    (s.inlined ++ s.repository.keys).Perm repository.keys := by
  refine List.perm_iff_count.2 fun name => ?_
  have hplaces := congrFun (pass_places h) name
  rw [places_start, places, List.count_nil] at hplaces
  rw [List.count_append, Table.count_keys, Table.count_keys]
  omega

/-- No entry that is unused gets lost or comes in. -/
theorem pass_pruned
    (h : (pass counts patterns repository).run { repository } = .ok (rules, s)) :
    (s.repository.keys.filter fun n => counts.get n = 0) =
      repository.keys.filter fun n => counts.get n = 0 := by
  rw [← Table.keys_filter, ← Table.keys_filter]
  refine Table.keys_congr fun name => ?_
  rw [mem_keys_filter, mem_keys_filter, ← (pass_keys_perm h).mem_iff, List.mem_append]
  refine and_congr_left fun hzero => ⟨.inr, fun hn => hn.resolve_left fun hin => ?_⟩
  have hone := (pass_once h).inlined name hin
  rw [decide_eq_true_eq, hone] at hzero
  cases hzero

end Pass

section Outcome

variable {patterns : List Rule} {repository : Repository} {c : Compaction}

theorem keys_of_ofCounts (h : ofCounts counts patterns repository = .ok c) :
    ∃ s, (pass counts patterns repository).run { repository } = .ok (c.patterns, s) ∧
      c.repository.keys = s.repository.keys.filter (fun n => counts.get n ≠ 0) ∧
      c.inlined = s.inlined ∧
      c.pruned = s.repository.keys.filter (fun n => counts.get n = 0) ∧
      c.findings = s.repository.keys.filterMap (findingOf? counts) := by
  obtain ⟨s, hrun, hrepository, hrest⟩ := ofCounts_eq_ok h
  refine ⟨s, hrun, ?_, hrest⟩
  rw [hrepository, Table.keys_filter]

theorem keys_perm_of_ofCounts (h : ofCounts counts patterns repository = .ok c) :
    (c.inlined ++ c.pruned ++ c.repository.keys).Perm repository.keys := by
  obtain ⟨s, hrun, hkeys, hinlined, hpruned, -⟩ := keys_of_ofCounts h
  have hleft : (c.pruned ++ c.repository.keys).Perm s.repository.keys := by
    simp only [hpruned, hkeys, ne_eq, decide_not]
    exact List.filter_append_perm _ _
  rw [hinlined, List.append_assoc]
  exact (hleft.append_left s.inlined).trans (pass_keys_perm hrun)

theorem inlined_of_ofCounts (h : ofCounts counts patterns repository = .ok c) :
    ∀ n ∈ c.inlined, counts.get n = 1 := by
  obtain ⟨s, hrun, -, hinlined, -⟩ := keys_of_ofCounts h
  rw [hinlined]
  exact (pass_once hrun).inlined

theorem pruned_of_ofCounts (h : ofCounts counts patterns repository = .ok c) :
    c.pruned = repository.keys.filter fun n => counts.get n = 0 := by
  obtain ⟨s, hrun, -, -, hpruned, -⟩ := keys_of_ofCounts h
  rw [hpruned, pass_pruned hrun]

theorem pruned_ascending (h : ofCounts counts patterns repository = .ok c) :
    c.pruned.Pairwise (· < ·) := by
  rw [pruned_of_ofCounts h]
  exact repository.keys_ascending.filter _

theorem findings_of_ofCounts (h : ofCounts counts patterns repository = .ok c) :
    c.findings.Pairwise (fun a b => a.rule < b.rule) ∧
    c.findings.Perm (c.pruned.map (Finding.mk .unused) ++
      (c.repository.keys.filter fun n => counts.get n = 1).map (Finding.mk .singleUse)) := by
  obtain ⟨s, hrun, hkeys, -, hpruned, hfindings⟩ := keys_of_ofCounts h
  have hone : (c.repository.keys.filter fun n => counts.get n = 1) =
      s.repository.keys.filter fun n => counts.get n = 1 := by
    rw [hkeys, List.filter_filter]
    refine List.filter_congr fun n _ => ?_
    by_cases hcount : counts.get n = 1
    · simp [hcount]
    · simp [hcount]
  rw [hfindings, hpruned, hone]
  exact ⟨findings_ascending s.repository.keys_ascending, findings_perm counts s.repository.keys⟩

end Outcome

/--
Every entry is inlined, pruned or left, and only one of these. Only names used once are inlined, and
the pruned names are the unused ones. There is a finding about each pruned name and about each name
used once that is left, and no other.
-/
theorem partition_of_ofCounts (counts : UseCounts) (patterns : List Rule) (repository : Repository)
    (c : Compaction) (h : ofCounts counts patterns repository = .ok c) :
    (c.inlined ++ c.pruned ++ c.repository.keys).Perm repository.keys ∧
    (c.inlined ++ c.pruned ++ c.repository.keys).Nodup ∧
    (∀ name ∈ c.inlined, counts.get name = 1) ∧
    c.pruned = (repository.keys.filter fun name => counts.get name = 0) ∧
    c.pruned.Pairwise (· < ·) ∧
    c.findings.Pairwise (fun a b => a.rule < b.rule) ∧
    c.findings.Perm (c.pruned.map (Finding.mk .unused) ++
      (c.repository.keys.filter fun name => counts.get name = 1).map (Finding.mk .singleUse)) := by
  have hperm := keys_perm_of_ofCounts h
  have hnodup := hperm.nodup_iff.2 repository.keys_nodup
  exact ⟨hperm, hnodup, inlined_of_ofCounts h, pruned_of_ofCounts h, pruned_ascending h,
    findings_of_ofCounts h⟩

end Compaction

/-- With an entry beside the others that nothing includes. -/
def Repository.tangledIdle : Repository :=
  Table.insert Repository.tangled "idle" (.leaf { pattern := "\\s+" })

def Compaction.tangledIdle : Compaction :=
  { Compaction.tangled with
    pruned := ["idle"]
    findings := [⟨.unused, "idle"⟩, ⟨.singleUse, "statement"⟩] }

theorem Compaction.partition_of_ofCounts_tangledIdle :
    ofCounts .tangled (Rule.includingAll ["#block"]) .tangledIdle = .ok .tangledIdle ∧
    (tangledIdle.inlined ++ tangledIdle.pruned ++ tangledIdle.repository.keys).Perm
      Repository.tangledIdle.keys ∧
    (tangledIdle.inlined ++ tangledIdle.pruned ++ tangledIdle.repository.keys).Nodup ∧
    (∀ name ∈ tangledIdle.inlined, UseCounts.tangled.get name = 1) ∧
    tangledIdle.pruned =
      (Repository.tangledIdle.keys.filter fun name => UseCounts.tangled.get name = 0) ∧
    tangledIdle.pruned.Pairwise (· < ·) ∧
    tangledIdle.findings.Pairwise (fun a b => a.rule < b.rule) ∧
    tangledIdle.findings.Perm (tangledIdle.pruned.map (Finding.mk .unused) ++
      (tangledIdle.repository.keys.filter fun name => UseCounts.tangled.get name = 1).map
        (Finding.mk .singleUse)) :=
  have h : ofCounts .tangled (Rule.includingAll ["#block"]) .tangledIdle = .ok .tangledIdle := by
    cbv
  ⟨h, partition_of_ofCounts _ _ _ _ h⟩

end TextMate
