import TextMate.Proofs.Classification

/-! What the denied kinds of findings decide about a run, and what they leave alone. -/
namespace TextMate

namespace Grammar

open Classical in
/-- The entries that the patterns do not reach, in name order. -/
noncomputable def unreached (g : Grammar) : List String :=
  g.repository.keys.filter fun name => ¬ g.repository.Reachable g.patterns name

variable {g : Grammar} {deny : FindingSet} {counts : UseCounts} {c : Compaction} {report : Report}

theorem mem_unreached {name : String} :
    name ∈ g.unreached ↔ name ∈ g.repository.keys ∧ ¬ g.repository.Reachable g.patterns name := by
  simp [unreached]

theorem pruned_eq_unreached (hcounted : g.repository.Counted g.patterns counts)
    (hc : Compaction.ofCounts counts g.patterns g.repository = .ok c) :
    c.pruned = g.unreached := by
  rw [Compaction.pruned_of_ofCounts hc, unreached]
  refine List.filter_congr fun name _ => ?_
  have hpos := hcounted.pos_iff name
  simp only [decide_eq_decide, ← hpos]
  omega

/-- Findings about unused entries are refused together or not at all. -/
theorem filter_unused (deny : FindingSet) (names : List String) :
    ((names.map (Finding.mk .unused)).filter fun d => deny.contains d.kind) =
      if deny.contains .unused then names.map (Finding.mk .unused) else [] := by
  rw [List.filter_map]
  cases h : deny.contains .unused with
  | true => simp [Function.comp_def, h]
  | false => simp [Function.comp_def, h]

theorem run_of_nil (deny : FindingSet) (hpatterns : g.patterns = []) :
    g.run deny = ⟨g, .error .noPatterns, []⟩ := by
  have hcheck : g.check = .error .noPatterns := by simp [check, hpatterns]
  unfold run
  rw [hcheck]

/-- A run stops with the error of the count and leaves the grammar as it is. -/
theorem run_of_countUses_error {e : GrammarError} (deny : FindingSet) (hcheck : g.check = .ok ())
    (hcount : g.repository.countUses g.patterns = .error e) :
    (g.run deny).grammar = g ∧ (g.run deny).result = .error e := by
  unfold run
  simp only [hcheck, hcount]
  exact ⟨trivial, trivial⟩

/-- How a run goes on after a count that has succeeded. -/
theorem run_of_countUses (deny : FindingSet) (hcheck : g.check = .ok ())
    (hcount : g.repository.countUses g.patterns = .ok counts)
    (hc : Compaction.ofCounts counts g.patterns g.repository = .ok c) :
    (g.run deny).grammar = { g with patterns := c.patterns, repository := c.repository } ∧
    (g.run deny).result =
      if deny.contains .unused = true ∧ c.pruned ≠ [] then
        .error (.denied (c.pruned.map (Finding.mk .unused)))
      else .ok (.ofCompaction g counts c) := by
  have hcounted := Repository.counted_of_countUses hcount
  have hfindings := findings_ofCompaction hcounted hc
  unfold run
  simp only [hcheck, hcount, Run.afterCount, hc, hfindings, filter_unused, true_and]
  by_cases hdeny : deny.contains .unused = true
  · by_cases hpruned : c.pruned = []
    · simp [hpruned]
    · simp [hdeny, hpruned]
  · simp [hdeny]

theorem grammar_run (g : Grammar) (deny deny' : FindingSet) :
    (g.run deny).grammar = (g.run deny').grammar := by
  unfold run
  split
  · rfl
  · split
    · rfl
    · unfold Run.afterCount
      split <;> rfl

/-- A run that ends with a report has passed the check and the count. -/
theorem counted_of_result (h : (g.run deny).result = .ok report) :
    g.check = .ok () ∧ ∃ counts c, g.repository.countUses g.patterns = .ok counts ∧
      Compaction.ofCounts counts g.patterns g.repository = .ok c := by
  have hcompletes : (g.run deny).completes = true := by
    unfold Run.completes
    rw [h]
  obtain ⟨hpatterns, hwritable⟩ := accepted_of_completes hcompletes
  obtain ⟨counts, c, hcount, hc, -⟩ := exists_compaction_of_result h
  exact ⟨check_eq_ok hpatterns hwritable, counts, c, hcount, hc⟩

open Classical in
/--
The denied kinds do not touch the grammar that a run leaves behind. A grammar that can be counted is
refused exactly if unused entries are denied and there is an entry that the patterns do not reach,
and the refused findings are about these entries. Otherwise the report is the same for all denied
kinds. To deny nothing but entries used once never makes a run fail that has succeeded.
-/
theorem run_deny (g : Grammar) :
    (∀ deny deny', (g.run deny).grammar = (g.run deny').grammar) ∧
    (∀ counts, g.check = .ok () → g.repository.countUses g.patterns = .ok counts →
      ∃ report, ∀ deny, (g.run deny).result =
        if deny.contains .unused = true ∧
            ∃ key ∈ g.repository.keys, ¬ g.repository.Reachable g.patterns key then
          .error (.denied (g.unreached.map (Finding.mk .unused)))
        else .ok report) ∧
    ∀ deny report, (g.run deny).result = .ok report →
      (g.run (.singleton .singleUse)).result = .ok report := by
  refine ⟨grammar_run g, fun counts hcheck hcount => ?_, fun deny report h => ?_⟩
  · obtain ⟨c, hc⟩ := exists_compaction hcount
    have hpruned := pruned_eq_unreached (Repository.counted_of_countUses hcount) hc
    have hne : c.pruned ≠ [] ↔
        ∃ key ∈ g.repository.keys, ¬ g.repository.Reachable g.patterns key := by
      rw [hpruned, ne_eq, List.eq_nil_iff_forall_not_mem]
      simp [mem_unreached]
    refine ⟨.ofCompaction g counts c, fun deny => ?_⟩
    obtain ⟨-, hresult⟩ := run_of_countUses deny hcheck hcount hc
    rw [hresult, ← hpruned]
    exact if_congr (and_congr_right fun _ => hne) rfl rfl
  · obtain ⟨hcheck, counts, c, hcount, hc⟩ := counted_of_result h
    obtain ⟨-, hresult⟩ := run_of_countUses deny hcheck hcount hc
    obtain ⟨-, hother⟩ := run_of_countUses (.singleton .singleUse) hcheck hcount hc
    rw [if_neg fun hdenied => Bool.false_ne_true hdenied.1] at hother
    rw [hresult] at h
    split_ifs at h
    rw [hother, h]

open Classical in
theorem run_deny_circular :
    circular.check = .ok () ∧
    circular.repository.countUses circular.patterns = .ok .circular ∧
    (circular.run .none).result = .ok .circular ∧
    (circular.run .all).grammar = (circular.run .none).grammar ∧
    (∃ report, ∀ deny, (circular.run deny).result =
      if deny.contains .unused = true ∧ ∃ key ∈ circular.repository.keys,
          ¬ circular.repository.Reachable circular.patterns key then
        .error (.denied (circular.unreached.map (Finding.mk .unused)))
      else .ok report) ∧
    (circular.run (.singleton .singleUse)).result = .ok .circular := by
  have hcheck : circular.check = .ok () := by cbv
  have hcount : circular.repository.countUses circular.patterns = .ok .circular := by cbv
  have hresult : (circular.run .none).result = .ok .circular := by cbv
  obtain ⟨hgrammar, hverdict, hsuccess⟩ := run_deny circular
  exact ⟨hcheck, hcount, hresult, hgrammar .all .none, hverdict .circular hcheck hcount,
    hsuccess .none .circular hresult⟩

end Grammar

end TextMate
