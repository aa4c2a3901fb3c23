import TextMate.Proofs.Outcome
import TextMate.Proofs.Partition
import TextMate.Proofs.UseCounts

/-! What a run leaves behind, counted and run over again. -/
namespace TextMate

namespace UseCounts

variable {counts counts' : UseCounts}

/-- Counts that agree where a name is shared and are zero elsewhere are the shared ones. -/
theorem toList_eq_filter
    (h : ∀ name, counts'.get name = if 2 ≤ counts.get name then counts.get name else 0) :
    counts'.toList = counts.toList.filter fun use => 2 ≤ use.2 := by
  have htable : counts'.table = counts.table.filter fun _ count => 2 ≤ count := by
    refine Table.ext_get? fun name => ?_
    rw [Table.get?_filter, get?_table, get?_table, h]
    by_cases htwo : 2 ≤ counts.get name
    · have hne : counts.get name ≠ 0 := by omega
      simp [htwo, hne, Option.filter_some]
    · by_cases hzero : counts.get name = 0
      · simp [hzero]
      · simp [htwo, hzero, Option.filter_some]
  exact congrArg Table.entries htable

end UseCounts

namespace Repository

variable {repository : Repository} {patterns : List Rule} {counts : UseCounts}
  {inlined : Rule → Rule} {name : String}

theorem Reachable.mem_mentions (h : repository.Reachable patterns name) :
    name ∈ repository.mentions patterns := by
  rw [Repository.mem_mentions]
  cases h with
  | pattern hp => exact .inl hp
  | body hu hb hn => exact .inr ⟨_, _, hb, hn⟩

theorem filter_used (h : ∀ name ∈ repository.keys, counts.get name ≠ 0) :
    (repository.filter fun name _ => counts.get name ≠ 0) = repository :=
  Table.filter_eq_self fun name _ hb => decide_eq_true (h name (Table.mem_keys_of_get? hb))

/-- A name is used as often as it is mentioned outside the entries that are not used. -/
theorem Counted.get_eq_count (h : repository.Counted patterns counts) (name : String) :
    counts.get name =
      (mentions (repository.filter fun n _ => counts.get n ≠ 0) patterns).count name := by
  rw [h.get_eq, count_mentions_used]

/-- Every include of a rule is still there after inlining, or what stands for it is. -/
theorem Inlines.includes_subset (h : repository.Inlines counts inlined)
    (hi : repository.Inlinable counts) (r : Rule) (hn : name ∈ r.includes) (tag : Option String) :
    (inlined (.reference (.entry name) tag)).includes ⊆ (inlined r).includes := by
  induction r using Rule.induction_children with
  | step r ih =>
    cases href : r.reference? with
    | none =>
      rw [Rule.includes_eq_children href, Rule.includesList_eq_flatMap] at hn
      obtain ⟨c, hc, hn⟩ := List.mem_flatMap.1 hn
      rw [h.inside r href, Rule.includes_mapChildren _ href]
      exact fun n hin => List.mem_flatMap.2 ⟨c, hc, ih c hc hn hin⟩
    | some target =>
      obtain ⟨tag', rfl⟩ := Rule.eq_of_reference? href
      obtain rfl := List.mem_singleton.1 hn
      by_cases hone : counts.get name = 1
      · obtain ⟨body, hb⟩ := hi.entry name hone
        rw [h.once name tag body hone hb, h.once name tag' body hone hb]
        exact List.Subset.refl _
      · rw [h.kept name tag hone, h.kept name tag' hone]
        exact List.Subset.refl _

end Repository

namespace Compaction

variable {patterns rules : List Rule} {repository : Repository} {counts : UseCounts} {s : State}
  {name : String}

/-- A pass that steps around no circle leaves the uses of shared names and no others. -/
theorem count_mentions (hc : repository.Counted patterns counts)
    (h : (pass counts patterns repository).run { repository } = .ok (rules, s))
    (hguarded : s.guarded = []) (name : String) :
    (Repository.mentions (s.repository.filter fun n _ => counts.get n ≠ 0) rules).count name =
      if 2 ≤ counts.get name then counts.get name else 0 := by
  have hperm := (pass_mentions_perm h).count_eq name
  rw [List.count_append, ← hc.get_eq_count] at hperm
  by_cases hone : counts.get name = 1
  · have hgone : name ∉ Repository.mentions
        (s.repository.filter fun n _ => counts.get n ≠ 0) rules :=
      fun hn => pass_get_ne_one h hguarded hn hone
    rw [List.count_eq_zero.2 hgone, if_neg (by omega)]
  · have hinlined : s.inlined.count name = 0 :=
      List.count_eq_zero.2 fun hin => hone ((pass_once h).inlined name hin)
    split_ifs <;> omega

/-- A pass has nothing to do where all entries are shared. -/
theorem pass_of_shared (hc : repository.Counted patterns counts)
    (hshared : ∀ name ∈ repository.keys, 2 ≤ counts.get name) :
    ∃ s, (pass counts patterns repository).run { repository } = .ok (patterns, s) ∧
      s.repository = repository ∧ s.inlined = [] := by
  have hnone : ∀ name, counts.get name ≠ 1 := by
    intro name hone
    obtain ⟨body, hb⟩ := hc.entry name (by omega)
    have htwo := hshared name (Table.mem_keys_of_get? hb)
    omega
  have hin : repository.Inlines counts id :=
    ⟨fun name _ _ hone => absurd hone (hnone name), fun _ _ _ => rfl,
      fun r _ => (Rule.mapChildren_id r).symm⟩
  obtain ⟨s, hrun, -, hunused, -, hkept⟩ := run_pass hc hin
  rw [List.map_id] at hrun
  refine ⟨s, hrun, Table.ext_get? fun name => ?_, ?_⟩
  · by_cases hzero : counts.get name = 0
    · exact hunused name hzero
    · have hone := hnone name
      rw [hkept name (by omega), Option.map_id_fun, id]
  · refine List.eq_nil_iff_forall_not_mem.2 fun name hn => ?_
    exact hnone name ((pass_once hrun).inlined name hn)

theorem ofCounts_of_shared (hc : repository.Counted patterns counts)
    (hshared : ∀ name ∈ repository.keys, 2 ≤ counts.get name) :
    ofCounts counts patterns repository = .ok ⟨patterns, repository, [], [], []⟩ := by
  obtain ⟨s, hrun, hsame, hinlined⟩ := pass_of_shared hc hshared
  have hfilter : (repository.filter fun name _ => counts.get name ≠ 0) = repository := by
    refine Repository.filter_used fun name hn => ?_
    have htwo := hshared name hn
    omega
  have hpruned : (repository.keys.filter fun name => counts.get name = 0) = [] := by
    refine List.filter_eq_nil_iff.2 fun name hn => ?_
    have htwo := hshared name hn
    simp only [decide_eq_true_eq]
    omega
  have hfindings : repository.keys.filterMap (findingOf? counts) = [] :=
    List.filterMap_eq_nil_iff.2 fun name hn => findingOf?_shared (hshared name hn)
  rw [ofCounts_of_run hrun, hsame, hinlined, hfilter, hpruned, hfindings]

end Compaction

namespace Grammar

variable {g result : Grammar} {counts counts' : UseCounts} {inlined : Rule → Rule}
  {deny : FindingSet} {name : String}

theorem Inlined.mem_keys_iff (hg : g.Inlined counts inlined result)
    (hc : g.repository.Counted g.patterns counts) :
    name ∈ result.repository.keys ↔ 2 ≤ counts.get name := by
  rw [Table.mem_keys_iff, hg.repository]
  split_ifs with htwo
  · obtain ⟨body, hb⟩ := hc.entry name (by omega)
    simp [hb, htwo]
  · simp [htwo]

/-- What stands for the include of a name that was reachable is reachable still. -/
theorem Inlined.reachable (hg : g.Inlined counts inlined result)
    (hc : g.repository.Counted g.patterns counts) (hin : g.repository.Inlines counts inlined)
    (h : g.repository.Reachable g.patterns name) (tag : Option String) :
    ∀ n ∈ (inlined (.reference (.entry name) tag)).includes,
      result.repository.Reachable result.patterns n := by
  induction h with
  | @pattern name hp =>
    intro n hn
    rw [Rule.includesList_eq_flatMap] at hp
    obtain ⟨r, hr, hp⟩ := List.mem_flatMap.1 hp
    refine .pattern ?_
    rw [hg.patterns, Rule.includesList_eq_flatMap, List.flatMap_map]
    exact List.mem_flatMap.2 ⟨r, hr, hin.includes_subset hc.inlinable r hp tag hn⟩
  | @body user name body hu hb hname ih =>
    intro n hn
    have hbody := hin.includes_subset hc.inlinable body hname tag hn
    -- The body is part of what stands for its name, or it is the body of an entry that is left.
    by_cases hone : counts.get user = 1
    · rw [hin.once user tag body hone hb] at ih
      exact ih n hbody
    · have hpos := (hc.pos_iff user).2 hu
      rw [hin.kept user tag hone] at ih
      have hentry : result.repository.get? user = some (inlined body) := by
        rw [hg.repository, if_pos (by omega), hb]
        rfl
      exact .body (ih user List.mem_cons_self) hentry hbody

theorem Inlined.reachable_of_shared (hg : g.Inlined counts inlined result)
    (hc : g.repository.Counted g.patterns counts) (hin : g.repository.Inlines counts inlined)
    (htwo : 2 ≤ counts.get name) : result.repository.Reachable result.patterns name := by
  have hreach := hg.reachable hc hin ((hc.pos_iff name).1 (by omega)) none
  rw [hin.kept name none (by omega)] at hreach
  exact hreach name List.mem_cons_self

/-- The compacted grammar can be counted, and a shared name counts as before. -/
theorem Inlined.exists_recount (hg : g.Inlined counts inlined result)
    (hc : g.repository.Counted g.patterns counts) (hin : g.repository.Inlines counts inlined)
    (huses : ∀ name, (result.repository.mentions result.patterns).count name =
      if 2 ≤ counts.get name then counts.get name else 0) :
    ∃ counts', result.repository.countUses result.patterns = .ok counts' ∧
      ∀ name, counts'.get name = if 2 ≤ counts.get name then counts.get name else 0 := by
  have hshared : ∀ name, result.repository.Reachable result.patterns name →
      2 ≤ counts.get name := by
    intro name hreach
    have hpos := List.count_pos_iff.2 hreach.mem_mentions
    rw [huses] at hpos
    by_contra hnot
    rw [if_neg hnot] at hpos
    omega
  have hcount : ∃ counts', result.repository.countUses result.patterns = .ok counts' := by
    by_contra hnone
    obtain ⟨name, hreach, habsent⟩ :=
      Repository.countUses_eq_error fun counts' h => hnone ⟨counts', h⟩
    have hentry := Table.mem_keys_iff.1 ((hg.mem_keys_iff hc).2 (hshared name hreach))
    rw [habsent] at hentry
    cases hentry
  obtain ⟨counts', hcount⟩ := hcount
  refine ⟨counts', hcount, fun name => ?_⟩
  have hc' := Repository.counted_of_countUses hcount
  have hfilter : (result.repository.filter fun n _ => counts'.get n ≠ 0) = result.repository := by
    refine Repository.filter_used fun n hn => ?_
    have htwo := (hg.mem_keys_iff hc).1 hn
    have hpos := (hc'.pos_iff n).2 (hg.reachable_of_shared hc hin htwo)
    omega
  rw [hc'.get_eq_count, hfilter, huses]

theorem Inlined.check_eq_ok (hg : g.Inlined counts inlined result) (hpatterns : g.patterns ≠ [])
    (hwritable : g.Writable) : result.check = .ok () := by
  refine Grammar.check_eq_ok ?_ fun key hkey => hwritable key ?_
  · rw [hg.patterns]
    exact mt List.map_eq_nil_iff.1 hpatterns
  · rw [Table.mem_keys_iff, hg.repository] at hkey
    rw [Table.mem_keys_iff]
    split_ifs at hkey with htwo
    · rwa [Option.isSome_map] at hkey
    · cases hkey

/-- A grammar in which all entries are shared is what a run makes of it. -/
theorem run_of_shared (hcheck : g.check = .ok ())
    (hcount : g.repository.countUses g.patterns = .ok counts)
    (hshared : ∀ name ∈ g.repository.keys, 2 ≤ counts.get name) (deny : FindingSet) :
    ∃ report, (g.run deny).result = .ok report ∧ (g.run deny).grammar = g ∧
      report.findings = [] ∧ report.inlined = [] ∧ report.pruned = [] := by
  have hcompact := Compaction.ofCounts_of_shared (Repository.counted_of_countUses hcount) hshared
  have hafter : ∃ report, (Run.afterCount g deny counts).result = .ok report ∧
      (Run.afterCount g deny counts).grammar = g ∧
      report.findings = [] ∧ report.inlined = [] ∧ report.pruned = [] := by
    unfold Run.afterCount
    rw [hcompact]
    simp [Report.ofCompaction, Finding.sort]
  unfold run
  rw [hcheck, hcount]
  exact hafter

theorem count_mentions_afterCount (hc : g.repository.Counted g.patterns counts) (name : String) :
    ((Run.afterCount g deny counts).grammar.repository.mentions
      (Run.afterCount g deny counts).grammar.patterns).count name =
        if 2 ≤ counts.get name then counts.get name else 0 := by
  obtain ⟨inlined, hin⟩ := hc.inlinable.exists_inlines
  obtain ⟨s, hrun, hguarded, -⟩ := Compaction.run_pass hc hin
  unfold Run.afterCount
  rw [Compaction.ofCounts_of_run hrun]
  exact Compaction.count_mentions hc hrun hguarded name

/--
Counting again after a run finds the shared names of the first count, just as often as before, and
they are the entries that are left. So a second run changes nothing and finds nothing, whatever
kinds are denied in either of the two.
-/
theorem run_run (g : Grammar) (deny : FindingSet) (h : (g.run deny).completes = true) :
    ∃ counts counts', g.repository.countUses g.patterns = .ok counts ∧
      (g.run deny).grammar.repository.countUses (g.run deny).grammar.patterns = .ok counts' ∧
      counts'.toList = counts.toList.filter (fun use => 2 ≤ use.2) ∧
      (g.run deny).grammar.repository.keys = counts'.toList.map (·.1) ∧
      ∀ deny', ∃ report, ((g.run deny).grammar.run deny').result = .ok report ∧
        ((g.run deny).grammar.run deny').grammar = (g.run deny).grammar ∧
        report.findings = [] ∧ report.inlined = [] ∧ report.pruned = [] := by
  obtain ⟨counts, hcount, hgrammar⟩ := exists_counts_of_completes h
  have hc := Repository.counted_of_countUses hcount
  obtain ⟨inlined, hin⟩ := hc.inlinable.exists_inlines
  have hg : g.Inlined counts inlined (g.run deny).grammar := by
    rw [hgrammar]
    exact inlined_afterCount hc hin
  have huses : ∀ name,
      ((g.run deny).grammar.repository.mentions (g.run deny).grammar.patterns).count name =
        if 2 ≤ counts.get name then counts.get name else 0 := by
    rw [hgrammar]
    exact count_mentions_afterCount hc
  obtain ⟨counts', hcount', hget⟩ := hg.exists_recount hc hin huses
  have hkeys : (g.run deny).grammar.repository.keys = counts'.table.keys := by
    refine Table.keys_congr fun name => ?_
    rw [hg.mem_keys_iff hc, UseCounts.mem_keys_table, hget]
    split_ifs <;> omega
  have hshared : ∀ name ∈ (g.run deny).grammar.repository.keys, 2 ≤ counts'.get name := by
    intro name hn
    have htwo := (hg.mem_keys_iff hc).1 hn
    rwa [hget, if_pos htwo]
  obtain ⟨hpatterns, hwritable⟩ := accepted_of_completes h
  have hcheck := hg.check_eq_ok hpatterns hwritable
  exact ⟨counts, counts', hcount, hcount', UseCounts.toList_eq_filter hget, hkeys,
    run_of_shared hcheck hcount' hshared⟩

theorem run_run_circular : (circular.run .all).completes = true ∧
    ∃ counts counts', circular.repository.countUses circular.patterns = .ok counts ∧
      (circular.run .all).grammar.repository.countUses (circular.run .all).grammar.patterns =
        .ok counts' ∧
      counts'.toList = counts.toList.filter (fun use => 2 ≤ use.2) ∧
      (circular.run .all).grammar.repository.keys = counts'.toList.map (·.1) ∧
      ∀ deny', ∃ report, ((circular.run .all).grammar.run deny').result = .ok report ∧
        ((circular.run .all).grammar.run deny').grammar = (circular.run .all).grammar ∧
        report.findings = [] ∧ report.inlined = [] ∧ report.pruned = [] :=
  have h : (circular.run .all).completes = true := by cbv
  ⟨h, run_run circular .all h⟩

end Grammar

end TextMate
