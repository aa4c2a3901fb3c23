import TextMate.Proofs.Arguments.Order

/-! The value of an option, joined to it or given as the next argument. -/
namespace TextMate.Command

def Settings.withPath (s : Settings) (path : String) : Settings := { s with output := some path }

/-- The same request with another path. -/
def Request.withPath (path : String) : Request → Request
  | .run settings => .run (settings.withPath path).resolveOutput
  | request => request

section Paths

variable {s t : Settings} {path path' : String} {p : Piece}

theorem resolveOutput_withPath :
    (s.resolveOutput.withPath path).resolveOutput = (s.withPath path).resolveOutput := by
  simp only [Settings.withPath, resolveOutput_deny, resolveOutput_verbose, resolveOutput_color]

theorem withPath_of_decided {verdict : Verdict} (h : Decided verdict) :
    verdict.map (Request.withPath path) = verdict := by
  match verdict with
  | .error e => rfl
  | .ok .help | .ok .version => rfl
  | .ok (.run settings) => cases h

/-- Pieces leave the path that is given. -/
theorem take_output (hs : s.output = some path) (h : s.take p = .ok t) :
    t.output = some path := by
  obtain ⟨-, -, rfl⟩ := take_eq_ok_iff.1 h
  rw [Settings.gather, hs]
  rfl

/-- What a piece does to the settings does not depend on which path is given. -/
theorem take_withPath (hs : s.output = some path) :
    (s.withPath path').take p = (s.take p).map (·.withPath path') := by
  cases p with
  | help | version | verbose | color | strict => rfl
  | deny label | denyJoined label =>
    simp only [Settings.take, Settings.addDenied]
    split <;> rfl
  | output | outputJoined | positional =>
    simp only [Settings.take, Settings.setOutput, hs]
    rfl

theorem conclude_withPath (pieces : List Piece) (rest : List String)
    (hs : s.output = some path)
    (hrest : ∀ t : Settings, t.output = some path →
      (t.withPath path').read rest = (t.read rest).map (Request.withPath path')) :
    conclude rest (pieces.foldlM Settings.take (s.withPath path')) =
      (conclude rest (pieces.foldlM Settings.take s)).map (Request.withPath path') := by
  induction pieces generalizing s with
  | nil => exact hrest s hs
  | cons p pieces ih =>
    rw [List.foldlM_cons, List.foldlM_cons, take_withPath hs]
    cases htake : s.take p with
    | error verdict =>
      -- No piece ends the reading with a run, so there is no path in the verdict.
      exact (withPath_of_decided (decided_of_take htake)).symm
    | ok t => exact ih (take_output hs htake)

/-- Another path in the settings is another path in the request, and nothing else. -/
theorem read_withPath (hs : s.output = some path) (arguments : List String) :
    (s.withPath path').read arguments = (s.read arguments).map (Request.withPath path') := by
  obtain ⟨pieces, ending, hending, rfl⟩ := exists_pieces arguments
  rw [read_pieces, read_pieces]
  refine conclude_withPath pieces ending hs fun t _ => ?_
  cases hending with
  | nothing =>
    change Except.ok (Request.run _) = Except.ok (Request.run _)
    rw [resolveOutput_withPath]
  | waiting hvalued =>
    rw [read_waiting hvalued, read_waiting hvalued]
    rfl
  | unknown hunknown =>
    rw [read_unknown hunknown, read_unknown hunknown]
    rfl

/-- Two paths make two runs, if there is a run at all. -/
theorem read_withPath_eq_iff (hne : path' ≠ path) (hpath : path ≠ "-") (arguments : List String) :
    (s.withPath path').read arguments = (s.withPath path).read arguments ↔
      ∀ settings, (s.withPath path).read arguments ≠ .ok (.run settings) := by
  have hother : ∀ other, (s.withPath other).read arguments =
      ((s.withPath path).read arguments).map (Request.withPath other) := fun other =>
    read_withPath (s := s.withPath path) rfl arguments
  rw [hother path']
  constructor
  · -- A run names its path, unless that is a dash.
    intro heq settings hrun
    have hsame := hother path
    rw [hrun] at heq hsame
    simp only [Except.map, Request.withPath, Except.ok.injEq, Request.run.injEq] at heq hsame
    have houtput : settings.output = some path := by
      rw [hsame, resolveOutput_output]
      exact Option.filter_some_pos (by simpa using hpath)
    rw [← heq, resolveOutput_output, Option.filter_eq_some_iff] at houtput
    exact hne (Option.some.inj houtput.1)
  · intro hrun
    cases hread : (s.withPath path).read arguments with
    | error e => rfl
    | ok request =>
      cases request with
      | run settings => exact absurd hread (hrun settings)
      | help | version => rfl

end Paths

section Joining

variable {s t : Settings} {before : List String} {value : String}

/-- A piece behind arguments that make a run is read by itself. -/
theorem read_append_piece (h : s.read before = .ok (.run t)) :
    ∃ s' : Settings, ∀ (p : Piece) (after : List String),
      s.read (before ++ p.arguments ++ after) = conclude after (s'.take p) := by
  obtain ⟨pieces, s', rfl, htake⟩ := exists_pieces_of_run h
  refine ⟨s', fun p after => ?_⟩
  rw [List.append_assoc, read_pieces, htake]
  exact read_piece s' after p

/-- What begins with an option is no label. -/
theorem ofLabel?_of_repeated (h : "--deny=".toList <+: value.toList) :
    FindingKind.ofLabel? value = none := by
  cases hkind : FindingKind.ofLabel? value with
  | none => rfl
  | some kind =>
    obtain rfl := ofLabel?_eq_some_iff.1 hkind
    exact absurd h (by cases kind <;> decide)

theorem ne_dash_of_repeated (h : "--output=".toList <+: value.toList) : value ≠ "-" := by
  rintro rfl
  exact absurd h (by decide)

/-- Joined and apart, a path leads to the same unless it is another path in another run. -/
theorem conclude_output_eq_iff (s : Settings) (after : List String) (value : String) :
    conclude after (s.take (.outputJoined value)) = conclude after (s.take (.output false value)) ↔
      ¬ "--output=".toList <+: value.toList ∨
        ∀ settings, conclude after (s.take (.output false value)) ≠ .ok (.run settings) := by
  by_cases hstarts : "--output=".toList <+: value.toList
  · have hvalue : valueBehind "--output=" value ≠ value := valueBehind_ne_self (by decide) hstarts
    have hmeaning := read_withPath_eq_iff (s := s) hvalue (ne_dash_of_repeated hstarts) after
    simp only [hstarts, not_true_eq_false, false_or, Settings.take, Settings.setOutput]
    cases s.output with
    | none => exact hmeaning
    | some path => simp [Except.mapError, conclude]
  · have hvalue : valueBehind "--output=" value = value := valueBehind_eq_self hstarts
    simp only [hstarts, not_false_eq_true, true_or, Settings.take, hvalue]

/-- A label that begins with the option is no kind, and joined it may be read as one. -/
theorem conclude_deny_eq_iff (s : Settings) (after : List String) (value : String) :
    conclude after (s.take (.denyJoined value)) = conclude after (s.take (.deny value)) ↔
      ¬ "--deny=".toList <+: value.toList ∨
        conclude after (s.take (.denyJoined value)) = .error (.unknownKind value) := by
  by_cases hstarts : "--deny=".toList <+: value.toList
  · have hapart : conclude after (s.take (.deny value)) = .error (.unknownKind value) := by
      simp only [Settings.take, Settings.addDenied, ofLabel?_of_repeated hstarts]
      rfl
    simp only [hapart, hstarts, not_true_eq_false, false_or]
  · have hvalue : valueBehind "--deny=" value = value := valueBehind_eq_self hstarts
    simp only [hstarts, not_false_eq_true, true_or, Settings.take, hvalue]

end Joining

/--
A value joined to its option is read as the text behind all repetitions of the option at its front.
So it means what it means as the next argument unless it begins with the option. A path that does
makes another run, if there is one; a label that does is no kind, and joined it is refused only if
the same label is refused behind it.
-/
theorem parseArguments_joined (terminal : Bool) (before after : List String) (value : String)
    (settings : Settings) (h : parseArguments terminal before = .ok (.run settings)) :
    let parse := fun group => parseArguments terminal (before ++ group ++ after)
    parse ["--output=" ++ value] = parse ["--output", valueBehind "--output=" value] ∧
    parse ["--deny=" ++ value] = parse ["--deny", valueBehind "--deny=" value] ∧
    (parse ["--output=" ++ value] = parse ["--output", value] ↔
      ¬ "--output=".toList <+: value.toList ∨
        ∀ settings', parse ["--output", value] ≠ .ok (.run settings')) ∧
    (parse ["--deny=" ++ value] = parse ["--deny", value] ↔
      ¬ "--deny=".toList <+: value.toList ∨
        parse ["--deny=" ++ value] = .error (.unknownKind value)) := by
  obtain ⟨s, hread⟩ := read_append_piece h
  intro parse
  have houtputJoined : parse ["--output=" ++ value] =
      conclude after (s.take (.outputJoined value)) := hread (.outputJoined value) after
  have hdenyJoined : parse ["--deny=" ++ value] =
      conclude after (s.take (.denyJoined value)) := hread (.denyJoined value) after
  have houtput : ∀ path, parse ["--output", path] = conclude after (s.take (.output false path)) :=
    fun path => hread (.output false path) after
  have hdeny : ∀ label, parse ["--deny", label] = conclude after (s.take (.deny label)) :=
    fun label => hread (.deny label) after
  rw [houtputJoined, hdenyJoined, houtput, hdeny, houtput, hdeny]
  exact ⟨rfl, rfl, conclude_output_eq_iff s after value, conclude_deny_eq_iff s after value⟩

/-- Text that is an option by itself is a path like any other. -/
theorem parseArguments_joined_help :
    parseArguments false ["-v", "--output=" ++ "--help", "--color"] =
        parseArguments false ["-v", "--output", "--help", "--color"] ∧
      parseArguments false ["-v", "--output", "--help", "--color"] =
        .ok (.run { output := some "--help", verbose := true, color := true }) := by
  have h : parseArguments false ["-v"] = .ok (.run { verbose := true }) := rfl
  obtain ⟨-, -, houtput, -⟩ := parseArguments_joined false ["-v"] ["--color"] "--help" _ h
  exact ⟨houtput.2 (.inl (by decide)), rfl⟩

/-- The label joined is that of a kind, and as the next argument it is none. -/
theorem parseArguments_deny_repeated :
    parseArguments false ["--deny=" ++ "--deny=unused"] =
        .ok (.run { deny := ⟨true, false⟩ }) ∧
      parseArguments false ["--deny", "--deny=unused"] =
        .error (.unknownKind "--deny=unused") := by
  have hvalue : valueBehind "--deny=" "--deny=unused" = "unused" :=
    valueBehind_once "--deny=" "unused" (by decide) (by decide)
  refine ⟨?_, rfl⟩
  rw [parseArguments, Settings.read.eq_def]
  simp only [Argument.ofText_denyJoined, hvalue]
  rfl

end TextMate.Command
