import TextMate.Finding

/-! What a run logs, and the plain form of a log line. -/
namespace TextMate

inductive Level where
  | error
  | warn
  | info
  | debug
  | trace
deriving DecidableEq, Inhabited

namespace Level

/-- The higher the rank, the more detailed the level. -/
def rank : Level → Nat
  | .error => 1
  | .warn => 2
  | .info => 3
  | .debug => 4
  | .trace => 5

def name : Level → String
  | .error => "ERROR"
  | .warn => "WARN"
  | .info => "INFO"
  | .debug => "DEBUG"
  | .trace => "TRACE"

/-- The name, flush right in five columns. -/
def column (l : Level) : String :=
  .ofList (List.replicate (5 - l.name.length) ' ') ++ l.name

end Level

inductive Event where
  | countedInclude (rule : String) (count : Nat)
  | countedReferences (referenced entries : Nat)
  | inlinedRule (rule : String)
  | finishedCompaction (inlined pruned remaining : Nat)
  | warning (finding : Finding)
deriving DecidableEq, Inhabited

namespace Event

def level : Event → Level
  | .countedInclude .. => .trace
  | .countedReferences .. => .debug
  | .inlinedRule _ => .debug
  | .finishedCompaction .. => .debug
  | .warning _ => .warn

def message : Event → String
  | .countedInclude .. => "counted include"
  | .countedReferences .. => "counted references"
  | .inlinedRule _ => "inlined single-use rule"
  | .finishedCompaction .. => "compaction finished"
  | .warning d => d.message

/-- Names and values of the fields; a name of an entry is shown as it is. -/
def fields : Event → List (String × String)
  | .countedInclude rule count => [("rule", rule), ("count", toString count)]
  | .countedReferences referenced entries =>
    [("referenced", toString referenced), ("entries", toString entries)]
  | .inlinedRule rule => [("rule", rule)]
  | .finishedCompaction inlined pruned remaining =>
    [("inlined", toString inlined), ("pruned", toString pruned), ("remaining", toString remaining)]
  | .warning d => [("rule", d.rule), ("kind", "\"" ++ d.kind.label ++ "\"")]

def line (e : Event) : String :=
  e.level.column ++ " " ++ e.message ++
    String.join (e.fields.map fun f => " " ++ f.1 ++ "=" ++ f.2)

/-- The events at a level and at the less detailed ones. -/
def upTo (level : Level) (events : List Event) : List Event :=
  events.filter fun e => e.level.rank ≤ level.rank

end Event

end TextMate
