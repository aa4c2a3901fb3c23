import TextMate.Log
import TextMate.Report.Style
import TextMate.Text.Blank
import TextMate.Text.Pieces

/-! Which events the command shows, and how they look on a terminal. -/
namespace TextMate

/-- The module under whose name an event is filtered. -/
def Event.origin : Event → String
  | .countedInclude .. => "syntaxgen::engine::refcount"
  | .countedReferences .. => "syntaxgen::api"
  | .inlinedRule _ => "syntaxgen::engine::compactor"
  | .finishedCompaction .. => "syntaxgen::engine::compactor"
  | .warning _ => "syntaxgen::api"

def Level.style : Level → Style
  | .error => .red
  | .warn => .yellow
  | .info => .green
  | .debug => .blue
  | .trace => .magenta

/-- The line of an event with its time, in colour. -/
def Event.coloredLine (e : Event) (time : String) : String :=
  let field (f : String × String) :=
    " " ++ Style.italic.apply true f.1 ++ Style.dim.apply true "=" ++ f.2
  Style.dim.apply true time ++ " " ++ e.level.style.apply true e.level.column ++ " " ++ e.message ++
    String.join (e.fields.map field)

namespace Command

/-- `rank` is the highest rank of the levels shown; at zero nothing is. -/
structure Directive where
  /-- The start of the names of the modules meant; it is empty if all are. -/
  target : String := ""
  rank : Nat
deriving DecidableEq, Inhabited

abbrev LogFilter := List Directive

/-- A level by number; zeros in front and a plus sign do not matter. -/
def rankByNumber? (cs : List Char) : Option Nat :=
  let digits := if cs.head? = some '+' then cs.tail else cs
  match digits.dropWhile (· = '0') with
  | [] => if digits.isEmpty then none else some 0
  | [c] => if '1' ≤ c ∧ c ≤ '5' then some (c.toNat - 48) else none
  | _ => none

/-- A level by name, in any case. -/
def rankByName? (cs : List Char) : Option Nat :=
  match String.ofList (cs.map Char.toLower) with
  | "off" => some 0
  | "error" => some Level.error.rank
  | "warn" => some Level.warn.rank
  | "info" => some Level.info.rank
  | "debug" => some Level.debug.rank
  | "trace" => some Level.trace.rank
  | _ => none

def levelRank? (cs : List Char) : Option Nat := rankByNumber? cs <|> rankByName? cs

/-- What a directive may start with. -/
def isDirectiveStart (c : Char) : Bool :=
  c.isAlphanum || c ∈ ['_', ':', '-'] || 0x80 ≤ c.toNat && !Text.isBlank c

/--
A level for all modules, or a module with or without a level; without one all is shown. Blanks are
part of the name of a module, but none may stand in front of one that has a level.
-/
def Directive.parse? (cs : List Char) : Option Directive :=
  if !(cs.dropWhile Text.isBlank).head?.any isDirectiveStart || '[' ∈ cs then none
  else
    match levelRank? cs with
    | some rank => some { rank }
    | none =>
      match Text.cutAt '=' cs with
      | none => some ⟨.ofList cs, Level.trace.rank⟩
      | some (target, level) =>
        if target.head?.any Text.isBlank then none
        else if level.isEmpty then some ⟨.ofList target, Level.trace.rank⟩
        else (levelRank? level).map (⟨.ofList target, ·⟩)

namespace LogFilter

/-- An empty text shows errors; between commas nothing may stand. -/
def parse? (text : String) : Option LogFilter :=
  if text.isEmpty then some [{ rank := Level.error.rank }]
  else ((Text.pieces ',' text.toList).filter (!·.isEmpty)).mapM Directive.parse?

/-- Warnings are shown if there is no filter or if it cannot be read. -/
def ofVariable (value : Option String) : LogFilter :=
  (value.bind parse?).getD [{ rank := Level.warn.rank }]

/-- The directive with the longest target that fits decides, the last one of several. -/
def rankFor (f : LogFilter) (origin : String) : Nat :=
  let fitting := f.filter fun d => d.target.toList.isPrefixOf origin.toList
  let best := fitting.foldl (fun best d =>
    match best with
    | some b => if b.target.length ≤ d.target.length then some d else some b
    | none => some d) none
  (best.map (·.rank)).getD 0

def shows (f : LogFilter) (e : Event) : Bool := e.level.rank ≤ f.rankFor e.origin

end LogFilter

end Command

end TextMate
