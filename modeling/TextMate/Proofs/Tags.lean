import TextMate.Proofs.Classification

/-! Which nodes, and so which scope names, are left after a run. -/
namespace TextMate

namespace Grammar

open Classical in
/-- What the patterns and the bodies that they reach consist of. -/
noncomputable def nodes (g : Grammar) : List Rule :=
  Rule.nodesList g.patterns ++
    Repository.nodes (g.repository.filter fun name _ => g.repository.Reachable g.patterns name)

/-- The node is an include whose place is taken by the body of the entry. -/
def GivesWay (g : Grammar) (node : Rule) : Prop :=
  ∃ name, node.reference? = some name ∧ g.uses name = 1

variable {g : Grammar} {deny : FindingSet} {counts : UseCounts} {rules : List Rule}
  {s : Compaction.State}

theorem nodes_eq (hc : g.repository.Counted g.patterns counts) :
    g.nodes = Rule.nodesList g.patterns ++
      Repository.nodes (g.repository.filter fun name _ => counts.get name ≠ 0) := by
  have hsame : ∀ name, decide (counts.get name ≠ 0) =
      @decide (g.repository.Reachable g.patterns name) (Classical.propDecidable _) := by
    intro name
    rw [decide_eq_decide, ← Nat.pos_iff_ne_zero, hc.pos_iff]
  simp only [nodes, hsame]

section Pass

variable (hc : g.repository.Counted g.patterns counts)
  (h : (Compaction.pass counts g.patterns g.repository).run { repository := g.repository } =
    .ok (rules, s))
include hc h

theorem givesWay_of_removed {removed : List Rule}
    (hremoved : removed.map Rule.reference? = s.inlined.map some) :
    ∀ node ∈ removed, g.GivesWay node := by
  intro node hnode
  have hinlined : node.reference? ∈ s.inlined.map some := hremoved ▸ List.mem_map_of_mem hnode
  obtain ⟨name, hname, href⟩ := List.mem_map.1 hinlined
  refine ⟨name, href.symm, ?_⟩
  rw [uses_eq hc]
  exact (Compaction.pass_once h).inlined name hname

theorem not_givesWay_of_left (hguarded : s.guarded = []) :
    ∀ node ∈ Rule.nodesList rules ++
      Repository.nodes (s.repository.filter fun name _ => counts.get name ≠ 0),
      ¬ g.GivesWay node := by
  rintro node hnode ⟨name, href, hone⟩
  have hmention : name ∈ Repository.mentions
      (s.repository.filter fun name _ => counts.get name ≠ 0) rules := by
    rw [Repository.mentions_eq_filterMap]
    exact List.mem_filterMap.2 ⟨node, hnode, href⟩
  rw [uses_eq hc] at hone
  exact Compaction.pass_get_ne_one h hguarded hmention hone

end Pass

open Classical in
/-- All nodes are left but those that give way. -/
theorem perm_nodes_of_completes (h : (g.run deny).completes = true) :
    (Rule.nodesList (g.run deny).grammar.patterns ++ (g.run deny).grammar.repository.nodes).Perm
      (g.nodes.filter fun node => ¬ g.GivesWay node) := by
  obtain ⟨counts, hcount, hgrammar⟩ := exists_counts_of_completes h
  have hc := Repository.counted_of_countUses hcount
  obtain ⟨inlined, hin⟩ := hc.inlinable.exists_inlines
  obtain ⟨s, hrun, hguarded, -⟩ := Compaction.run_pass hc hin
  obtain ⟨removed, hremoved, hperm⟩ := Compaction.pass_perm hrun
  have hgone : removed.filter (fun node => ¬ g.GivesWay node) = [] := by
    apply List.filter_eq_nil_iff.2
    intro node hn
    rw [decide_eq_true_eq, not_not]
    exact givesWay_of_removed hc hrun hremoved node hn
  have hleft := List.filter_eq_self.2 fun node hn =>
    decide_eq_true (not_givesWay_of_left hc hrun hguarded node hn)
  have hkept := hperm.filter fun node => ¬ g.GivesWay node
  rw [List.filter_append, hgone, List.append_nil, hleft] at hkept
  rw [nodes_eq hc, hgrammar]
  unfold Run.afterCount
  rw [Compaction.ofCounts_of_run hrun]
  exact hkept

open Classical in
/--
A run that completes keeps every scope name that a node has, as often as it was there, unless the
node is an include of a name used once. Such an include goes with its own scope name.
-/
theorem run_keeps_names (g : Grammar) (deny : FindingSet) (h : (g.run deny).completes = true)
    (tag : String) :
    (Rule.nodesList (g.run deny).grammar.patterns ++
        (g.run deny).grammar.repository.nodes).countP (fun node => node.name = some tag) =
      (g.nodes.filter fun node => ¬ g.GivesWay node).countP fun node => node.name = some tag :=
  (perm_nodes_of_completes h).countP_eq _

end Grammar

/-- An include with a scope name of its own, of an entry that is used nowhere else. -/
def Grammar.tagged : Grammar where
  name := "Calls"
  scopeName := "source.calls"
  patterns := [
    .reference (.entry "call") (some "meta.call"),
    .reference (.external "source.other") (some "meta.other")]
  repository := .ofList [("call", .leaf { pattern := "\\w+" })]

open Classical in
theorem Grammar.run_keeps_names_tagged :
    (tagged.run .none).completes = true ∧
    (Rule.nodesList (tagged.run .none).grammar.patterns ++
        (tagged.run .none).grammar.repository.nodes).countP
          (fun node => node.name = some "meta.other") =
      (tagged.nodes.filter fun node => ¬ tagged.GivesWay node).countP fun node =>
        node.name = some "meta.other" :=
  have h : (tagged.run .none).completes = true := by cbv
  ⟨h, run_keeps_names tagged .none h "meta.other"⟩

/-- The leaf takes the place of the include and not its scope name. -/
theorem Grammar.run_loses_name_tagged :
    (tagged.run .none).completes = true ∧
    ¬ tagged.nodes.countP (fun node => node.name = some "meta.call") ≤
      (Rule.nodesList (tagged.run .none).grammar.patterns ++
        (tagged.run .none).grammar.repository.nodes).countP
          fun node => node.name = some "meta.call" := by
  have hcompletes : (tagged.run .none).completes = true := by cbv
  have hafter : (Rule.nodesList (tagged.run .none).grammar.patterns ++
      (tagged.run .none).grammar.repository.nodes).countP
        (fun node => node.name = some "meta.call") = 0 := by cbv
  have hinclude : Rule.reference (.entry "call") (some "meta.call") ∈ tagged.nodes :=
    List.mem_append_left _ List.mem_cons_self
  have hbefore : 0 < tagged.nodes.countP fun node => node.name = some "meta.call" :=
    List.countP_pos_iff.2 ⟨_, hinclude, rfl⟩
  constructor
  · exact hcompletes
  · omega

end TextMate
