import TextMate.Compaction
import TextMate.Grammar.Validity
import TextMate.Grammar.Walk
import TextMate.Log

/-! A run over a grammar: check it, count its includes, compact it and report. -/
namespace TextMate

structure Report where
  /-- Sorted by rule name, then by kind. -/
  findings : List Finding
  counts : UseCounts
  /-- The number of distinct names used. -/
  referenced : Nat
  entriesBefore : Nat
  entriesAfter : Nat
  /-- In the order in which they were inlined. -/
  inlined : List String
  /-- Entries used more than once. -/
  shared : List String
  pruned : List String
deriving DecidableEq, Inhabited

/-- What is reported after a compaction with the counts of the grammar. -/
def Report.ofCompaction (g : Grammar) (counts : UseCounts) (c : Compaction) : Report where
  findings := Finding.sort c.findings
  counts
  referenced := counts.size
  entriesBefore := g.repository.size
  entriesAfter := c.repository.size
  inlined := c.inlined
  shared := c.repository.keys.filter fun name => 2 ≤ counts.get name
  pruned := c.pruned

structure Run where
  /-- Unchanged after an error other than denial. -/
  grammar : Grammar
  result : Except GrammarError Report
  events : List Event

namespace Run

/-- What follows a successful count. -/
def afterCount (g : Grammar) (deny : FindingSet) (counts : UseCounts) : Run :=
  let counted := Event.countedReferences counts.size g.repository.size
  match Compaction.ofCounts counts g.patterns g.repository with
  | .error e => ⟨g, .error e, [counted]⟩
  | .ok c =>
    let report := Report.ofCompaction g counts c
    let denied := report.findings.filter fun d => deny.contains d.kind
    { grammar := { g with patterns := c.patterns, repository := c.repository }
      result := if denied.isEmpty then .ok report else .error (.denied denied)
      events :=
        counted :: c.inlined.map .inlinedRule ++
          .finishedCompaction c.inlined.length c.pruned.length c.repository.size ::
            report.findings.map .warning }

end Run

/-- The compacted grammar does not depend on the kinds that are denied. -/
def Grammar.run (g : Grammar) (deny : FindingSet) : Run :=
  match g.check with
  | .error e => ⟨g, .error e, []⟩
  | .ok () =>
    let uses := UseCounts.empty.tally (g.repository.walk g.patterns).names
    let counting := uses.map fun use => Event.countedInclude use.1 use.2
    match g.repository.countUses g.patterns with
    | .error e => ⟨g, .error e, counting⟩
    | .ok counts =>
      let run := Run.afterCount g deny counts
      { run with events := counting ++ run.events }

end TextMate
