import Std.Time.Format
import TextMate.Command.Plan
import TextMate.Cue

/-! The command that writes the grammar of CUE. -/
namespace TextMate.Command

def clockText : IO String := do
  let now := Std.Time.DateTime.ofTimestamp (← Std.Time.Timestamp.now) .UTC
  return now.format "uuuu-MM-dd'T'HH:mm:ss.SSSSSS'Z'"

def nanosecondsOf (work : Unit → Nat) : IO Nat := do
  let start ← IO.monoNanosNow
  let _ ← IO.lazyPure work
  return (← IO.monoNanosNow) - start

/-- The stages are run once for their times alone. -/
def measure (g : Grammar) : IO Elapsed := do
  let counting ← nanosecondsOf fun _ =>
    match g.repository.countUses g.patterns with
    | .ok counts => counts.size
    | .error _ => 0
  let total ← nanosecondsOf fun _ => (g.run .none).grammar.repository.size
  return { total, counting, compaction := total - counting }

def findEnvironment (g : Grammar) : IO Environment := do
  return {
    logFilter := ← IO.getEnv logVariable
    terminal := ← (← IO.getStderr).isTty
    time := ← clockText
    elapsed := ← measure g }

def ioReason : IO.Error → String
  | .noFileOrDirectory .. => FileError.notFound.message
  | .inappropriateType .. => FileError.isADirectory.message
  | e => toString e

def writeDocument (out : IO.FS.Stream) (g : Grammar) : IO (Except GrammarError Unit) := do
  try
    out.putStr g.documentBody
  catch e =>
    return .error (.cutShort (ioReason e))
  try
    out.putStr "\n"
    out.flush
    return .ok ()
  catch e =>
    return .error (.io (ioReason e))

def handOver (output : Option String) (g : Grammar) : IO (Except GrammarError Unit) := do
  try
    let out ←
      match output with
      | none => IO.getStdout
      | some path => IO.FS.Stream.ofHandle <$> IO.FS.Handle.mk path .write
    writeDocument out g
  catch e =>
    return .error (.io (ioReason e))

def Plan.carryOut : Plan → IO UInt32
  | .stop code stdout stderr => do
    let out ← IO.getStdout
    try
      out.putStr stdout
      out.flush
    catch _ =>
      return brokenOff.toUInt32
    IO.eprint stderr
    return code.toUInt32
  | .deliver stderr output g => do
    IO.eprint stderr
    let (code, line) := verdict (← handOver output g)
    IO.eprint line
    return code.toUInt32

end TextMate.Command

def main (arguments : List String) : IO UInt32 := do
  let environment ← TextMate.Command.findEnvironment TextMate.Cue.grammar
  (TextMate.Command.plan TextMate.Cue.grammar environment arguments).carryOut
