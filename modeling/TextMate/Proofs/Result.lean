import TextMate.Run
import TextMate.Proofs.Pass

/-! The grammar that a run leaves behind. -/
namespace TextMate

/-- The run got as far as its findings; they may have been refused. -/
def Run.completes (run : Run) : Bool :=
  match run.result with
  | .ok _ => true
  | .error (.denied _) => true
  | .error _ => false

namespace Grammar

variable {g : Grammar} {deny : FindingSet}

theorem not_denied_of_check {e : GrammarError} (h : g.check = .error e) (findings : List Finding) :
    e ≠ .denied findings := by
  unfold check at h
  split at h
  · cases h
    exact nofun
  · split at h
    · cases h
      exact nofun
    · cases h

theorem not_denied_of_countUses {e : GrammarError}
    (h : g.repository.countUses g.patterns = .error e) (findings : List Finding) :
    e ≠ .denied findings := by
  unfold Repository.countUses at h
  simp only at h
  split at h
  · cases h
    exact nofun
  · cases h

theorem completes_error {run : Run} {e : GrammarError} (hr : run.result = .error e)
    (he : ∀ findings, e ≠ .denied findings) : run.completes = false := by
  unfold Run.completes
  rw [hr]
  cases e with
  | denied findings => exact absurd rfl (he findings)
  | _ => rfl

/-- A run completes exactly when the checks and the count succeed. -/
theorem exists_counts_of_completes (h : (g.run deny).completes = true) :
    ∃ counts, g.repository.countUses g.patterns = .ok counts ∧
      (g.run deny).grammar = (Run.afterCount g deny counts).grammar := by
  unfold run at h ⊢
  cases hcheck : g.check with
  | error e =>
    simp only [hcheck] at h
    rw [completes_error rfl (not_denied_of_check hcheck)] at h
    cases h
  | ok u =>
    simp only [hcheck] at h ⊢
    cases hcount : g.repository.countUses g.patterns with
    | error e =>
      simp only [hcount] at h
      rw [completes_error rfl (not_denied_of_countUses hcount)] at h
      cases h
    | ok counts => exact ⟨counts, rfl, rfl⟩

/-- `result` is `g` with its patterns and its shared entries inlined and all other entries gone. -/
structure Inlined (g : Grammar) (counts : UseCounts) (inlined : Rule → Rule) (result : Grammar) :
    Prop where
  schema : result.schema = g.schema
  name : result.name = g.name
  scopeName : result.scopeName = g.scopeName
  patterns : result.patterns = g.patterns.map inlined
  repository : ∀ name, result.repository.get? name =
    if 2 ≤ counts.get name then (g.repository.get? name).map inlined else none

theorem inlined_afterCount {counts : UseCounts} {inlined : Rule → Rule}
    (hc : g.repository.Counted g.patterns counts) (hin : g.repository.Inlines counts inlined) :
    g.Inlined counts inlined (Run.afterCount g deny counts).grammar := by
  obtain ⟨s, hrun, -, hunused, honce, hshared⟩ := Compaction.run_pass hc hin
  unfold Run.afterCount
  rw [Compaction.ofCounts_of_run hrun]
  refine ⟨rfl, rfl, rfl, rfl, fun name => ?_⟩
  rw [Table.get?_filter]
  by_cases htwo : 2 ≤ counts.get name
  · have hkeep : decide (counts.get name ≠ 0) = true := by
      rw [decide_eq_true_eq]
      omega
    rw [if_pos htwo, ← hshared name htwo]
    cases s.repository.get? name with
    | none => rfl
    | some body => exact if_pos hkeep
  · rw [if_neg htwo]
    by_cases hone : counts.get name = 1
    · rw [honce name hone]
      rfl
    · have hzero : counts.get name = 0 := by omega
      cases s.repository.get? name with
      | none => rfl
      | some body => exact if_neg (by simp [hzero])

/-- What is known of every run that completes, through the substitution it amounts to. -/
theorem inlined_of_completes (h : (g.run deny).completes = true) :
    ∃ counts inlined, g.repository.countUses g.patterns = .ok counts ∧
      g.repository.Counted g.patterns counts ∧ g.repository.Inlines counts inlined ∧
      g.Inlined counts inlined (g.run deny).grammar := by
  obtain ⟨counts, hcount, hgrammar⟩ := exists_counts_of_completes h
  have hc := Repository.counted_of_countUses hcount
  obtain ⟨inlined, hin⟩ := hc.inlinable.exists_inlines
  rw [hgrammar]
  exact ⟨counts, inlined, hcount, hc, hin, inlined_afterCount hc hin⟩

/--
A run that completes puts the body of every entry used once in the place of its include, again with
such bodies in it, in the patterns and in the entries used more than once, which are all that is
left of the repository. Inlining comes to an end, so there is only one way to read this.
-/
theorem run_eq_inlined (g : Grammar) (deny : FindingSet) (h : (g.run deny).completes = true) :
    ∃ counts, g.repository.countUses g.patterns = .ok counts ∧
      WellFounded (g.repository.Nested counts) ∧
      ∃ inlined, g.repository.Inlines counts inlined ∧
        (∀ inlined', g.repository.Inlines counts inlined' → inlined' = inlined) ∧
        g.Inlined counts inlined (g.run deny).grammar := by
  obtain ⟨counts, inlined, hcount, hc, hin, hg⟩ := inlined_of_completes h
  exact ⟨counts, hcount, hc.wellFounded_nested, inlined, hin,
    fun _ hin' => hin'.unique hc.inlinable hin, hg⟩

theorem run_eq_inlined_circular : (circular.run .all).completes = true ∧
    ∃ counts, circular.repository.countUses circular.patterns = .ok counts ∧
      WellFounded (circular.repository.Nested counts) ∧
      ∃ inlined, circular.repository.Inlines counts inlined ∧
        (∀ inlined', circular.repository.Inlines counts inlined' → inlined' = inlined) ∧
        circular.Inlined counts inlined (circular.run .all).grammar :=
  have h : (circular.run .all).completes = true := by cbv
  ⟨h, run_eq_inlined circular .all h⟩

/-- The entries used once are inside the shared one, which still includes itself. -/
example : (circular.run .all).grammar.repository = .ofList [
    ("term", .group { patterns := [.region {
      opening := "("
      closing := ")"
      patterns := [.leaf {
        pattern := "(\\w+)"
        captures := [{ skip := 1, patterns := Rule.includingAll ["#term"] }] }] }] })] := by
  decide +kernel

end Grammar

end TextMate
