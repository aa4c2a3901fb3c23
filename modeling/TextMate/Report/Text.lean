import TextMate.Report.Elapsed
import TextMate.Report.Style
import TextMate.Run

/-! The report of a run as text for a terminal. -/
namespace TextMate.Report

/-- Flush right in at least the given number of columns. -/
def padLeft (width : Nat) (s : String) : String :=
  .ofList (List.replicate (width - s.length) ' ') ++ s

/-- Flush left in at least the given number of columns. -/
def padRight (width : Nat) (s : String) : String :=
  s ++ .ofList (List.replicate (width - s.length) ' ')

/-- The most used name first, and names used equally often in name order. -/
def moreUsed (a b : String × Nat) : Bool := b.2 < a.2 || a.2 = b.2 && decide (a.1 ≤ b.1)

/-- The names used more than once. -/
def sharedCounts (counts : UseCounts) : List (String × Nat) :=
  (counts.toList.filter fun e => 2 ≤ e.2).mergeSort moreUsed

def countLine (colored : Bool) (e : String × Nat) : String :=
  "  " ++ Style.green.apply colored (padLeft 4 (toString e.2) ++ "×") ++ " " ++
    Style.blue.apply colored e.1

/-- A line for each shared name, then the number of the names used once. -/
def countLines (colored : Bool) (counts : UseCounts) : List String :=
  let shared := sharedCounts counts
  let single := toString (counts.size - shared.length) ++ " rule(s) referenced once"
  shared.map (countLine colored) ++ ["  " ++ Style.dim.apply colored single]

def namesLine (colored : Bool) (label : String) (names : List String) (style : Style) : String :=
  let listed :=
    if names.isEmpty then "-"
    else ", ".intercalate names ++ " (" ++ toString names.length ++ ")"
  "  " ++ style.apply colored (padRight 9 label) ++ " " ++ Style.dim.apply colored listed

def repositoryLines (colored : Bool) (r : Report) : List String :=
  ["  " ++ Style.yellow.apply colored (toString r.entriesBefore) ++ " " ++
      Style.dim.apply colored "entries →" ++ " " ++
      Style.green.apply colored (toString r.entriesAfter) ++ " " ++
      Style.dim.apply colored ("(" ++ toString r.referenced ++ " referenced)"),
    namesLine colored "Inlined:" r.inlined .blue,
    namesLine colored "Shared:" r.shared .green,
    namesLine colored "Pruned:" r.pruned .yellow]

def findingMark : FindingKind → String
  | .unused => "✗"
  | .singleUse => "!"

def findingLines (colored : Bool) (findings : List Finding) : List String :=
  if findings.isEmpty then [Style.dim.apply colored "  None"]
  else findings.map fun f =>
    "  " ++ Style.yellow.apply colored (findingMark f.kind) ++ " " ++ f.message

def timingLine (colored : Bool) (e : Elapsed) : String :=
  "  Total: " ++ Style.green.apply colored (durationText e.total) ++
    "  │  Counting: " ++ Style.cyan.apply colored (durationText e.counting) ++
    "  │  Compaction: " ++ Style.dim.apply colored (durationText e.compaction)

/-- The title of the report. -/
def title (colored : Bool) (g : Grammar) : String :=
  Style.bold.apply colored <| Style.cyan.apply colored <|
    "⚙  Compacting: " ++ g.name ++ " (" ++ g.scopeName ++ ")"

/-- A blank line, a heading and the lines under it. -/
def block (colored : Bool) (heading : String) (lines : List String) : List String :=
  "" :: Style.gray.apply colored ("━━━ " ++ heading ++ " ━━━") :: lines

def lines (r : Report) (g : Grammar) (e : Elapsed) (colored : Bool) : List String :=
  "" :: title colored g ::
    (block colored "References" (countLines colored r.counts) ++
      block colored "Repository" (repositoryLines colored r) ++
      block colored "Diagnostics" (findingLines colored r.findings) ++
      block colored "Timing" [timingLine colored e, ""])

/-- Every line ends in a line feed. -/
def text (r : Report) (g : Grammar) (e : Elapsed) (colored : Bool) : String :=
  String.join ((r.lines g e colored).map (· ++ "\n"))

end TextMate.Report
