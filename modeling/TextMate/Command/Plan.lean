import TextMate.Command.Arguments
import TextMate.Command.LogFilter
import TextMate.Document.Sink
import TextMate.FileTree
import TextMate.Report.Text

/-! What the command does with a grammar. -/
namespace TextMate.Command

def name : String := "gen-syntax"

def version : String := "0.1.0"

def logVariable : String := "SYNTAXGEN_LOG"

def usage : String :=
  name ++ " " ++ version ++ "

Generate the CUE TextMate grammar as JSON.

Usage:
  gen-syntax [OPTIONS] [<output>]

Arguments:
  <output>                   File to write. Writes to stdout when omitted or '-'.

Options:
  -o, --output <path>        Same as <output>.
  --strict                   Fail on any warning.
  --deny <kind>              Fail on warnings of this kind: unused, single-use.
                             May be repeated.
  -v, --verbose              Print a compaction report to stderr.
  --color                    Force ANSI color in the report.
  --no-color                 Disable ANSI color in the report.
  -h, --help                 Show this help message.
  -V, --version              Print version information.

Environment:
  " ++ logVariable ++ "              Log filter (default: warn).

Exit codes:
  0  Success.
  1  Unresolved rule, denied warning, or write failure.
  2  Invalid arguments.
"

/-- What the command finds around it. -/
structure Environment where
  logFilter : Option String := none
  /-- Whether standard error is a terminal. -/
  terminal : Bool := false
  /-- The time on log lines. -/
  time : String := ""
  elapsed : Elapsed := {}

inductive Plan where
  /-- Exit at once with these texts on standard output and standard error. -/
  | stop (code : Nat) (stdout stderr : String)
  /-- Write the document of a grammar after the text for standard error. -/
  | deliver (stderr : String) (output : Option String) (g : Grammar)
deriving DecidableEq, Inhabited

def errorLine (e : GrammarError) : String := "error: " ++ e.message ++ "\n"

def logText (env : Environment) (events : List Event) : String :=
  let shown := events.filter (LogFilter.ofVariable env.logFilter).shows
  String.join (shown.map fun e => e.coloredLine env.time ++ "\n")

def planRun (g : Grammar) (env : Environment) (s : Settings) : Plan :=
  let run := g.run s.deny
  let log := logText env run.events
  match run.result with
  | .error e => .stop 1 "" (log ++ errorLine e)
  | .ok report =>
    let shown := if s.verbose then report.text run.grammar env.elapsed s.color else ""
    .deliver (log ++ shown) s.output run.grammar

def plan (g : Grammar) (env : Environment) (arguments : List String) : Plan :=
  match parseArguments env.terminal arguments with
  | .error e => .stop 2 "" (e.message ++ "\n")
  | .ok .help => .stop 0 usage ""
  | .ok .version => .stop 0 (name ++ " " ++ version ++ "\n") ""
  | .ok (.run s) => planRun g env s

/-- Standard output, or a file that is written: where the bytes go, and how that may fail. -/
structure Outlet where
  /-- Why a file is not opened although its path leads to it. -/
  closed : Option String := none
  /-- The number of bytes that are taken, if there is a limit to it. -/
  limit : Option Nat := none
  /-- Why all other bytes are refused. -/
  reason : String := ""
  /-- The number of bytes at the end of a document that wait in a buffer until all are written. -/
  held : Nat := 0
deriving DecidableEq, Inhabited

namespace Outlet

/-- Where the file of a path is to be written, or why it cannot be opened. -/
def place (o : Outlet) (t : FileTree) (working : FileTree.Place) (path : String) :
    Except String FileTree.Place :=
  match t.target working path, o.closed with
  | .error e, _ => .error e.message
  | .ok _, some reason => .error reason
  | .ok place, none => .ok place

/-- The bytes that arrive. When the buffer is emptied, it is no longer the document that fails. -/
def write (o : Outlet) (g : Grammar) : List UInt8 × Except GrammarError Unit :=
  let size := g.document.utf8ByteSize
  let limit := o.limit.getD size
  let (sink, result) := g.writeTo { limit, reason := o.reason }
  (sink.received,
    if size ≤ limit + o.held then result.mapError fun _ => .io o.reason else result)

end Outlet

structure Outcome where
  code : Nat
  /-- The bytes on standard output. -/
  printed : List UInt8
  stderr : String
  files : FileTree

/-- Standard output as far as it is text. -/
def Outcome.stdout (o : Outcome) : String :=
  (String.fromUTF8? ⟨o.printed.toArray⟩).getD ""

/-- The exit code, and the line on standard error if something failed. -/
def verdict : Except GrammarError Unit → Nat × String
  | .ok () => (0, "")
  | .error e => (1, errorLine e)

/-- The exit code of a command that breaks off because standard output takes no more text. -/
def brokenOff : Nat := 101

/-- A plan carried out in a directory of a file tree. -/
def Plan.perform (t : FileTree) (working : FileTree.Place) (p : Plan) (outlet : Outlet := {}) :
    Outcome :=
  match p with
  | .stop code stdout stderr =>
    let bytes := stdout.toUTF8.data.toList
    let printed := bytes.take (outlet.limit.getD bytes.length)
    ⟨if printed.length < bytes.length then brokenOff else code, printed, stderr, t⟩
  | .deliver stderr none g =>
    let (received, result) := outlet.write g
    ⟨(verdict result).1, received, stderr ++ (verdict result).2, t⟩
  | .deliver stderr (some path) g =>
    match outlet.place t working path with
    | .error reason => ⟨1, [], stderr ++ errorLine (.io reason), t⟩
    | .ok place =>
      let (received, result) := outlet.write g
      ⟨(verdict result).1, [], stderr ++ (verdict result).2,
        t.put place (.file ⟨received.toArray⟩)⟩

end TextMate.Command
