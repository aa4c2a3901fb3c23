import TextMate.Proofs.DepthFirst
import TextMate.Proofs.Logging

/-! What the lines of a log tell of the counts, the inlined names and the findings of its run. -/
namespace TextMate

/-- The lines about some of the events. -/
def linesWhere (p : Event → Bool) (log : List Event) : List String := (log.filter p).map Event.line

section Lines

theorem line_countedInclude (name : String) (k : Nat) :
    (Event.countedInclude name k).line =
      "TRACE counted include rule=" ++ name ++ " count=" ++ toString k := by
  have hcolumn : Level.trace.column = "TRACE" := by decide
  simp [Event.line, Event.level, Event.message, Event.fields, String.join, hcolumn,
    ← String.append_assoc]

theorem line_inlinedRule (name : String) :
    (Event.inlinedRule name).line = "DEBUG inlined single-use rule rule=" ++ name := by
  have hcolumn : Level.debug.column = "DEBUG" := by decide
  simp [Event.line, Event.level, Event.message, Event.fields, String.join, hcolumn,
    ← String.append_assoc]

theorem line_finishedCompaction (inlined pruned remaining : Nat) :
    (Event.finishedCompaction inlined pruned remaining).line =
      "DEBUG compaction finished inlined=" ++ toString inlined ++ " pruned=" ++ toString pruned ++
        " remaining=" ++ toString remaining := by
  have hcolumn : Level.debug.column = "DEBUG" := by decide
  simp [Event.line, Event.level, Event.message, Event.fields, String.join, hcolumn,
    ← String.append_assoc]

theorem line_warning (d : Finding) :
    (Event.warning d).line =
      " WARN " ++ d.message ++ " rule=" ++ d.rule ++ " kind=\"" ++ d.kind.label ++ "\"" := by
  have hcolumn : Level.warn.column = " WARN" := by decide
  simp [Event.line, Event.level, Event.message, Event.fields, String.join, hcolumn,
    ← String.append_assoc]

/-- No finding is told in the words of another event. -/
theorem message_ne (d : Finding) {text : String} (hunused : text.toList.head? ≠ some 'u')
    (honce : text.toList.head? ≠ some 'r') : d.message ≠ text := by
  rintro rfl
  unfold Finding.message at hunused honce
  cases hkind : d.kind with
  | unused =>
    rw [hkind] at hunused
    simp at hunused
  | singleUse =>
    rw [hkind] at honce
    simp at honce

end Lines

namespace Logging

theorem countedIncludes_append (counts : UseCounts) (xs ys : List String) :
    countedIncludes counts (xs ++ ys) =
      countedIncludes counts xs ++ countedIncludes (xs.foldl UseCounts.addUse counts) ys := by
  induction xs generalizing counts with
  | nil => rfl
  | cons x rest ih => exact congrArg (List.cons _) (ih (counts.addUse x))

/-- The counts shown for a name go up from its count before, one by one. -/
theorem filter_countedIncludes (counts : UseCounts) (names : List String) (name : String) :
    ((countedIncludes counts names).filter fun e =>
        e.message = "counted include" ∧ ("rule", name) ∈ e.fields) =
      (List.range' (counts.get name + 1) (names.count name)).map (.countedInclude name) := by
  induction names generalizing counts with
  | nil => rfl
  | cons n rest ih =>
    have hhead : countedIncludes counts (n :: rest) =
        .countedInclude n (counts.get n + 1) :: countedIncludes (counts.addUse n) rest := rfl
    have hcount := UseCounts.get_addUse counts n name
    rw [hhead, List.filter_cons, ih, List.count_cons]
    -- A use of the name itself takes the first number of the range.
    by_cases hname : name = n
    · subst hname
      rw [if_pos rfl] at hcount
      simp [Event.message, Event.fields, hcount, List.range'_succ]
    · rw [if_neg hname, Nat.add_zero] at hcount
      simp [Event.fields, hcount, hname, Ne.symm hname]

/-- A name that was not met before is counted once. -/
theorem getLast?_countedIncludes {before : List String} {name : String} (h : name ∉ before) :
    (countedIncludes .empty (before ++ [name])).getLast? = some (.countedInclude name 1) := by
  have hzero : (before.foldl UseCounts.addUse .empty).get name = 0 := by
    rw [UseCounts.get_foldl_addUse, UseCounts.get_empty, List.count_eq_zero.2 h]
  have hlast : countedIncludes (before.foldl UseCounts.addUse .empty) [name] =
      [.countedInclude name 1] := by
    rw [← Nat.zero_add 1, ← hzero]
    rfl
  rw [countedIncludes_append, hlast, List.getLast?_concat]

end Logging

open Logging

namespace Grammar

/-- What the writing run has written at its end. -/
def log (g : Grammar) (shown : Level) (deny : FindingSet) : List Event :=
  match (g.logged shown deny).run [] with
  | .ok _ log => log
  | .error _ log => log

variable {g : Grammar} {deny : FindingSet} {counts : UseCounts} {c : Compaction} {name : String}

theorem log_eq (g : Grammar) (shown : Level) (deny : FindingSet) :
    g.log shown deny = Event.upTo shown (g.run deny).events := by
  unfold log
  rw [run_logged, List.nil_append]
  cases (g.run deny).result <;> rfl

/-- Nothing is more detailed than a trace. -/
theorem log_trace (g : Grammar) (deny : FindingSet) :
    g.log .trace deny = (g.run deny).events := by
  rw [log_eq]
  refine List.filter_eq_self.2 fun e _ => ?_
  cases e <;> rfl

theorem unresolved_of_result (hcheck : g.check = .ok ())
    (h : (g.run deny).result = .error (.unresolved name)) :
    g.repository.countUses g.patterns = .error (.unresolved name) := by
  cases hcount : g.repository.countUses g.patterns with
  | error e =>
    rw [(run_of_countUses_error deny hcheck hcount).2] at h
    cases h
    rfl
  | ok counts =>
    obtain ⟨c, hc⟩ := exists_compaction hcount
    rw [(run_of_countUses deny hcheck hcount hc).2] at h
    split_ifs at h
    cases h

/-- The lines about counting a name do not depend on whether the count succeeds. -/
theorem filter_counted (hcheck : g.check = .ok ()) (deny : FindingSet) (name : String) :
    ((g.run deny).events.filter fun e =>
        e.message = "counted include" ∧ ("rule", name) ∈ e.fields) =
      (List.range' 1 ((g.repository.walk g.patterns).names.count name)).map
        (.countedInclude name) := by
  have hwalk := filter_countedIncludes .empty (g.repository.walk g.patterns).names name
  rw [UseCounts.get_empty, Nat.zero_add] at hwalk
  cases hcount : g.repository.countUses g.patterns with
  | error e => rw [events_of_countUses_error deny hcheck hcount, hwalk]
  | ok counts =>
    obtain ⟨c, hc⟩ := exists_compaction hcount
    have hwarning : ∀ d : Finding, d.message ≠ "counted include" := fun d =>
      message_ne d (by decide) (by decide)
    rw [events_of_countUses deny hcheck hcount hc]
    simp only [List.filter_append, hwalk]
    simp [List.filter_map, Function.comp_def, Event.message, hwarning]

theorem filter_inlined (hcheck : g.check = .ok ())
    (hcount : g.repository.countUses g.patterns = .ok counts)
    (hc : Compaction.ofCounts counts g.patterns g.repository = .ok c) :
    ((g.run deny).events.filter fun e => e.message = "inlined single-use rule") =
      c.inlined.map .inlinedRule := by
  have hwarning : ∀ d : Finding, d.message ≠ "inlined single-use rule" := fun d =>
    message_ne d (by decide) (by decide)
  rw [events_of_countUses deny hcheck hcount hc]
  simp [countedIncludes, List.filter_map, Function.comp_def, Event.message, hwarning]

theorem filter_finished (hcheck : g.check = .ok ())
    (hcount : g.repository.countUses g.patterns = .ok counts)
    (hc : Compaction.ofCounts counts g.patterns g.repository = .ok c) :
    ((g.run deny).events.filter fun e => e.message = "compaction finished") =
      [.finishedCompaction c.inlined.length c.pruned.length c.repository.size] := by
  have hwarning : ∀ d : Finding, d.message ≠ "compaction finished" := fun d =>
    message_ne d (by decide) (by decide)
  rw [events_of_countUses deny hcheck hcount hc]
  simp [countedIncludes, List.filter_map, Function.comp_def, Event.message, hwarning]

theorem filter_warnings (hcheck : g.check = .ok ())
    (hcount : g.repository.countUses g.patterns = .ok counts)
    (hc : Compaction.ofCounts counts g.patterns g.repository = .ok c) :
    ((g.run deny).events.filter fun e => e.level = .warn) =
      (Finding.sort c.findings).map .warning := by
  rw [events_of_countUses deny hcheck hcount hc]
  simp [countedIncludes, List.filter_map, Function.comp_def, Event.level]

/-- A report, or its refusal, tells of the compaction whose lines are in the log. -/
theorem findings_of_result (hcheck : g.check = .ok ())
    (hcount : g.repository.countUses g.patterns = .ok counts)
    (hc : Compaction.ofCounts counts g.patterns g.repository = .ok c) :
    (∀ report, (g.run deny).result = .ok report →
      report.counts = counts ∧ report.inlined = c.inlined ∧
        report.findings = Finding.sort c.findings) ∧
    ∀ denied, (g.run deny).result = .error (.denied denied) →
      denied = (Finding.sort c.findings).filter fun d => deny.contains d.kind := by
  unfold run
  simp only [hcheck, hcount, Run.afterCount, hc]
  constructor
  · intro report h
    split_ifs at h
    cases h
    exact ⟨rfl, rfl, rfl⟩
  · intro denied h
    split_ifs at h
    cases h
    rfl

theorem size_of_compaction (hc : Compaction.ofCounts counts g.patterns g.repository = .ok c) :
    c.inlined.length + c.pruned.length + c.repository.size = g.repository.size := by
  have hlength := (Compaction.keys_perm_of_ofCounts hc).length_eq
  simp only [List.length_append, Table.keys, List.length_map] at hlength
  exact hlength

/--
The k-th line about counting a name shows k, and there are as many of them as the count says if it
succeeds. If it fails, the last line is the only one about the name at which it fails. Behind a
count that succeeds there is a line for each inlined name, in the order of the report, then one
whose numbers add up to those of the entries that there were, and then one for each finding, in the
order of the report and also if the findings are refused. The log at any level is written by a run
that comes to the same end, and is what that level leaves of the most detailed log.
-/
theorem log_tells (g : Grammar) (deny : FindingSet) (h : g.check = .ok ()) :
    (∀ name, ∃ uses,
      linesWhere (fun e => e.message = "counted include" ∧ ("rule", name) ∈ e.fields)
          (g.log .trace deny) =
        (List.range' 1 uses).map (fun k =>
          "TRACE counted include rule=" ++ name ++ " count=" ++ toString k) ∧
      ∀ counts, g.repository.countUses g.patterns = .ok counts → uses = counts.get name) ∧
    (∀ name, (g.run deny).result = .error (.unresolved name) →
      ((g.log .trace deny).map Event.line).getLast? =
        some ("TRACE counted include rule=" ++ name ++ " count=1")) ∧
    (∀ counts, g.repository.countUses g.patterns = .ok counts →
      ∃ c, Compaction.ofCounts counts g.patterns g.repository = .ok c ∧
        linesWhere (fun e => e.message = "inlined single-use rule") (g.log .trace deny) =
          c.inlined.map ("DEBUG inlined single-use rule rule=" ++ ·) ∧
        linesWhere (fun e => e.message = "compaction finished") (g.log .trace deny) =
          ["DEBUG compaction finished inlined=" ++ toString c.inlined.length ++ " pruned=" ++
            toString c.pruned.length ++ " remaining=" ++ toString c.repository.size] ∧
        c.inlined.length + c.pruned.length + c.repository.size = g.repository.size ∧
        linesWhere (fun e => e.level = .warn) (g.log .trace deny) =
          (Finding.sort c.findings).map (fun d =>
            " WARN " ++ d.message ++ " rule=" ++ d.rule ++ " kind=\"" ++ d.kind.label ++ "\"") ∧
        (Finding.sort c.findings).Pairwise (fun a b => a.rule < b.rule) ∧
        (∀ report, (g.run deny).result = .ok report →
          report.counts = counts ∧ report.inlined = c.inlined ∧
            report.findings = Finding.sort c.findings) ∧
        ∀ denied, (g.run deny).result = .error (.denied denied) →
          denied = (Finding.sort c.findings).filter fun d => deny.contains d.kind) ∧
    ∀ shown,
      (g.logged shown deny).run [] = ended (g.log shown deny) (g.run deny).result ∧
      g.log shown deny = Event.upTo shown (g.run deny).events ∧
      g.log shown deny = (g.log .trace deny).filter fun e => e.level.rank ≤ shown.rank := by
  rw [log_trace]
  refine ⟨fun name => ?_, fun name hresult => ?_, fun counts hcount => ?_, fun shown => ?_⟩
  · refine ⟨(g.repository.walk g.patterns).names.count name, ?_, fun counts hcount => ?_⟩
    · rw [linesWhere, filter_counted h, List.map_map]
      exact List.map_congr_left fun k _ => line_countedInclude name k
    · obtain ⟨names, hwalk, rfl⟩ := Repository.countUses_eq_ok_iff.1 hcount
      rw [hwalk, UseCounts.get_ofNames]
  · have hcount := unresolved_of_result h hresult
    obtain ⟨before, hnames, hkeys, habsent⟩ := Repository.countUses_eq_unresolved_iff.1 hcount
    have hnew : name ∉ before := fun hmem => habsent (hkeys name hmem)
    have hone : " count=" ++ toString 1 = " count=1" := by decide
    rw [events_of_countUses_error deny h hcount, hnames, List.getLast?_map,
      getLast?_countedIncludes hnew, Option.map_some, line_countedInclude, String.append_assoc,
      hone]
  · obtain ⟨c, hc⟩ := exists_compaction hcount
    obtain ⟨hreport, hdenied⟩ := findings_of_result h hcount hc
    have hsorted := (Compaction.findings_of_ofCounts hc).1
    refine ⟨c, hc, ?_, ?_, size_of_compaction hc, ?_, ?_, hreport, hdenied⟩
    · rw [linesWhere, filter_inlined h hcount hc, List.map_map]
      exact List.map_congr_left fun n _ => line_inlinedRule n
    · rw [linesWhere, filter_finished h hcount hc]
      exact congrArg (fun line => [line]) (line_finishedCompaction _ _ _)
    · rw [linesWhere, filter_warnings h hcount hc, List.map_map]
      exact List.map_congr_left fun d _ => line_warning d
    · rwa [Finding.sort_eq_self hsorted]
  · have hlog := log_eq g shown deny
    refine ⟨?_, hlog, hlog⟩
    rw [run_logged, List.nil_append, hlog]

/-- The innermost include leads nowhere. -/
def circularOpen : Grammar :=
  { circular with repository := circular.repository.erase "argument" }

theorem log_tells_circular :
    linesWhere (fun e => e.message = "counted include" ∧ ("rule", "term") ∈ e.fields)
        (circular.log .trace .all) =
      ["TRACE counted include rule=term count=1", "TRACE counted include rule=term count=2",
        "TRACE counted include rule=term count=3"] ∧
    linesWhere (fun e => e.message = "inlined single-use rule") (circular.log .trace .all) =
      ["DEBUG inlined single-use rule rule=argument",
        "DEBUG inlined single-use rule rule=wrapped"] ∧
    linesWhere (fun e => e.level = .warn) (circular.log .trace .all) =
      [" WARN unused rule: stale rule=stale kind=\"unused\""] ∧
    ((circularOpen.log .trace .all).map Event.line).getLast? =
      some "TRACE counted include rule=argument count=1" := by
  have hcheck : circular.check = .ok () := by cbv
  have hcount : circular.repository.countUses circular.patterns = .ok .circular := by cbv
  have hopen : circularOpen.check = .ok () := by cbv
  have hresult : (circularOpen.run .all).result = .error (.unresolved "argument") := by cbv
  obtain ⟨hcounted, -, hcompacted, -⟩ := log_tells circular .all hcheck
  obtain ⟨uses, hlines, huses⟩ := hcounted "term"
  obtain ⟨c, hc, hinlined, -, -, hwarnings, -⟩ := hcompacted .circular hcount
  have huses : uses = 3 := huses .circular hcount
  have hcompaction : Compaction.ofCounts .circular circular.patterns circular.repository =
      .ok {
        patterns := circular.patterns
        repository := (circular.run .all).grammar.repository
        inlined := ["argument", "wrapped"]
        pruned := ["stale"]
        findings := [⟨.unused, "stale"⟩] } := by decide +kernel
  rw [hcompaction] at hc
  cases hc
  rw [huses] at hlines
  refine ⟨hlines, hinlined, hwarnings.trans (by decide +kernel), ?_⟩
  exact (log_tells circularOpen .all hopen).2.1 "argument" hresult

end Grammar

end TextMate
