import TextMate.Finding

/-! The arguments of the command. -/
namespace TextMate.Command

structure Settings where
  /-- Standard output if there is no path. -/
  output : Option String := none
  deny : FindingSet := .none
  verbose : Bool := false
  color : Bool := false
deriving DecidableEq, Inhabited

inductive Request where
  | run (settings : Settings)
  | help
  | version
deriving DecidableEq, Inhabited

inductive UsageError where
  | missingValue (option : String)
  | unknownKind (label : String)
  | repeatedOutput
  | unknownOption (argument : String)
deriving DecidableEq, Inhabited

def UsageError.message : UsageError → String
  | .missingValue option => "error: " ++ option ++ " expects a value"
  | .unknownKind label =>
    "error: invalid --deny '" ++ label ++ "' (expected one of: " ++
      ", ".intercalate (FindingKind.all.map (·.label)) ++ ")"
  | .repeatedOutput => "error: output provided multiple times"
  | .unknownOption argument => "error: unknown option '" ++ argument ++ "'"

/-- What a single argument asks for. -/
inductive Argument where
  | help
  | version
  | verbose
  | color (on : Bool)
  | strict
  | deny (label : String)
  | output (path : String)
  /-- The label is the next argument. -/
  | denyNext
  | outputNext
  | unknown
deriving DecidableEq, Inhabited

/-- What is left when a text is taken off the front as often as it stands there. -/
def withoutLeading (mark cs : List Char) : List Char :=
  if _ : mark ≠ [] ∧ mark.isPrefixOf cs then withoutLeading mark (cs.drop mark.length) else cs
termination_by cs.length
decreasing_by
  obtain ⟨hm, hp⟩ := ‹_ ∧ _›
  have hle := (List.isPrefixOf_iff_prefix.1 hp).length_le
  have := List.length_pos_iff.2 hm
  simp only [List.length_drop]
  omega

def valueBehind (mark argument : String) : String :=
  .ofList (withoutLeading mark.toList argument.toList)

/-- Everything that does not start with a dash is a path, and so is a dash alone. -/
def Argument.ofText : String → Argument
  | "-h" | "--help" => .help
  | "-V" | "--version" => .version
  | "-v" | "--verbose" => .verbose
  | "--color" => .color true
  | "--no-color" => .color false
  | "--strict" => .strict
  | "--deny" => .denyNext
  | "-o" | "--output" => .outputNext
  | "-" => .output "-"
  | text =>
    if "--deny=".toList.isPrefixOf text.toList then .deny (valueBehind "--deny=" text)
    else if "--output=".toList.isPrefixOf text.toList then .output (valueBehind "--output=" text)
    else if text.toList.head? = some '-' then .unknown
    else .output text

namespace Settings

def addDenied (s : Settings) (label : String) : Except UsageError Settings :=
  match FindingKind.ofLabel? label with
  | some kind => .ok { s with deny := s.deny.insert kind }
  | none => .error (.unknownKind label)

/-- A second path is an error even if it is the first one again. -/
def setOutput (s : Settings) (path : String) : Except UsageError Settings :=
  match s.output with
  | some _ => .error .repeatedOutput
  | none => .ok { s with output := some path }

/-- A dash stands for standard output. -/
def resolveOutput (s : Settings) : Settings :=
  if s.output = some "-" then { s with output := none } else s

/-- Reads arguments from left to right; the first one that decides the request ends the reading. -/
def read (s : Settings) : List String → Except UsageError Request
  | [] => .ok (.run s.resolveOutput)
  | argument :: rest =>
    match Argument.ofText argument with
    | .help => .ok .help
    | .version => .ok .version
    | .verbose => read { s with verbose := true } rest
    | .color on => read { s with color := on } rest
    | .strict => read { s with deny := .all } rest
    | .deny label => do read (← s.addDenied label) rest
    | .output path => do read (← s.setOutput path) rest
    | .unknown => .error (.unknownOption argument)
    | .denyNext =>
      match rest with
      | [] => .error (.missingValue argument)
      | label :: rest => do read (← s.addDenied label) rest
    | .outputNext =>
      match rest with
      | [] => .error (.missingValue argument)
      | path :: rest => do read (← s.setOutput path) rest

end Settings

/-- Colour is the default on a terminal. -/
def parseArguments (terminal : Bool) (arguments : List String) : Except UsageError Request :=
  Settings.read { color := terminal } arguments

end TextMate.Command
