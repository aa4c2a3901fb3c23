import TextMate.Proofs.Arguments.Groups

/-! Which of the arguments decides what parsing says. -/
namespace TextMate.Command

/--
Help, the version and an error other than that of a missing value are decided by the arguments up to
some point, whatever else is appended. A value is missing only at the end, behind complete pieces,
and these would make a run.
-/
theorem parseArguments_decided (terminal : Bool) (arguments : List String) :
    (Decided (parseArguments terminal arguments) → ∀ more,
      parseArguments terminal (arguments ++ more) = parseArguments terminal arguments) ∧
    ∀ option, parseArguments terminal arguments = .error (.missingValue option) →
      option ∈ ["--deny", "-o", "--output"] ∧
      ∃ (pieces : List Piece) (settings : Settings),
        arguments = pieces.flatMap Piece.arguments ++ [option] ∧
        parseArguments terminal (pieces.flatMap Piece.arguments) = .ok (.run settings) := by
  unfold parseArguments
  generalize ({ color := terminal } : Settings) = s
  obtain ⟨pieces, ending, hending, rfl⟩ := exists_pieces arguments
  have hpieces := read_pieces s [] pieces
  rw [List.append_nil] at hpieces
  simp only [List.append_assoc, read_pieces]
  cases htake : pieces.foldlM Settings.take s with
  | error verdict =>
    refine ⟨fun _ more => rfl, fun option h => ?_⟩
    have hdecided := decided_of_foldlM htake
    change verdict = _ at h
    rw [h] at hdecided
    cases hdecided
  | ok t =>
    rw [htake] at hpieces
    change (Decided (t.read ending) → ∀ more, t.read (ending ++ more) = t.read ending) ∧
      ∀ option, t.read ending = .error (.missingValue option) → _
    cases hending with
    | nothing =>
      refine ⟨fun hdecided => ?_, fun option h => ?_⟩
      · cases hdecided
      · cases h
    | @waiting option hvalued =>
      rw [read_waiting hvalued]
      refine ⟨fun hdecided => ?_, fun option' h => ?_⟩
      · cases hdecided
      · cases h
        exact ⟨hvalued, pieces, t.resolveOutput, rfl, hpieces⟩
    | unknown hunknown =>
      rw [read_unknown hunknown]
      refine ⟨fun hdecided more => ?_, fun option h => ?_⟩
      · exact read_unknown hunknown
      · cases h

/-- Help as a path decides nothing, and the first of two options is the value of a third. -/
theorem parseArguments_decided_values :
    (∀ more, parseArguments true (["-o", "--help", "--bogus"] ++ more) =
      .error (.unknownOption "--bogus")) ∧
    ∃ (pieces : List Piece) (settings : Settings),
      ["-o", "--deny", "--deny"] = pieces.flatMap Piece.arguments ++ ["--deny"] ∧
      parseArguments true (pieces.flatMap Piece.arguments) = .ok (.run settings) := by
  constructor
  · have h : parseArguments true ["-o", "--help", "--bogus"] =
        .error (.unknownOption "--bogus") := rfl
    intro more
    rw [(parseArguments_decided true ["-o", "--help", "--bogus"]).1 (by rw [h]; trivial) more, h]
  · have h : parseArguments true ["-o", "--deny", "--deny"] = .error (.missingValue "--deny") := rfl
    exact ((parseArguments_decided true ["-o", "--deny", "--deny"]).2 "--deny" h).2

end TextMate.Command
