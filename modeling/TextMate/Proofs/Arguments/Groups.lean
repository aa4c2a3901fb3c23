import Mathlib
import TextMate.Command.Arguments

/-! The pieces that a list of arguments is made of, and how they are read one after the other. -/
namespace TextMate.Command

section Marks

variable {mark value : String}

theorem withoutLeading_append {mark : List Char} (hmark : mark ≠ []) (cs : List Char) :
    withoutLeading mark (mark ++ cs) = withoutLeading mark cs := by
  have hstarts : mark.isPrefixOf (mark ++ cs) = true :=
    List.isPrefixOf_iff_prefix.2 (List.prefix_append mark cs)
  rw [withoutLeading, dif_pos ⟨hmark, hstarts⟩, List.drop_left]

theorem withoutLeading_eq_self {mark cs : List Char} (h : ¬ mark <+: cs) :
    withoutLeading mark cs = cs := by
  rw [withoutLeading, dif_neg]
  rintro ⟨-, hstarts⟩
  exact h (List.isPrefixOf_iff_prefix.1 hstarts)

theorem length_withoutLeading_le (mark cs : List Char) :
    (withoutLeading mark cs).length ≤ cs.length := by
  fun_induction withoutLeading mark cs with
  | case1 cs hstarts ih =>
    rw [List.length_drop] at ih
    omega
  | case2 cs hstarts => exact Nat.le_refl _

/-- A mark in front of a value goes the way of those that the value has itself. -/
theorem valueBehind_append (hmark : mark.toList ≠ []) (value : String) :
    valueBehind mark (mark ++ value) = valueBehind mark value := by
  rw [valueBehind, String.toList_append, withoutLeading_append hmark, valueBehind]

theorem valueBehind_eq_self (h : ¬ mark.toList <+: value.toList) :
    valueBehind mark value = value := by
  rw [valueBehind, withoutLeading_eq_self h, String.ofList_toList]

theorem valueBehind_once (mark value : String) (hmark : mark.toList ≠ [])
    (h : ¬ mark.toList <+: value.toList) : valueBehind mark (mark ++ value) = value := by
  rw [valueBehind_append hmark, valueBehind_eq_self h]

theorem valueBehind_ne_self (hmark : mark.toList ≠ []) (h : mark.toList <+: value.toList) :
    valueBehind mark value ≠ value := by
  obtain ⟨rest, hrest⟩ := h
  intro heq
  have hlength := congrArg (fun text => text.toList.length) heq
  simp only [valueBehind, String.toList_ofList, ← hrest, withoutLeading_append hmark,
    List.length_append] at hlength
  have hle := length_withoutLeading_le mark.toList rest
  have hpos := List.length_pos_iff.2 hmark
  omega

end Marks

namespace Argument

/-- The texts that mean something as they stand. -/
def words : List (String × Argument) := [
  ("-h", .help), ("--help", .help), ("-V", .version), ("--version", .version), ("-v", .verbose),
  ("--verbose", .verbose), ("--color", .color true), ("--no-color", .color false),
  ("--strict", .strict), ("--deny", .denyNext), ("-o", .outputNext), ("--output", .outputNext),
  ("-", .output "-")]

variable {text : String}

/-- All other texts are told apart by how they start. -/
theorem ofText_other (h : text ∉ words.map (·.1)) :
    ofText text =
      if "--deny=".toList.isPrefixOf text.toList then .deny (valueBehind "--deny=" text)
      else if "--output=".toList.isPrefixOf text.toList then
        .output (valueBehind "--output=" text)
      else if text.toList.head? = some '-' then .unknown
      else .output text := by
  unfold ofText
  split
  all_goals first | exact absurd (by decide) h | rfl

theorem words_start : ∀ text ∈ words.map (·.1), text.toList.head? = some '-' := by decide

theorem words_plain : ∀ text ∈ words.map (·.1), '=' ∉ text.toList := by decide

theorem ofText_denyJoined (label : String) :
    ofText ("--deny=" ++ label) = .deny (valueBehind "--deny=" label) := by
  have hequals : '=' ∈ ("--deny=" ++ label).toList := by simp
  have hother : "--deny=" ++ label ∉ words.map (·.1) := fun h => words_plain _ h hequals
  have hstarts : "--deny=".toList.isPrefixOf ("--deny=" ++ label).toList = true := by simp
  rw [ofText_other hother, if_pos hstarts, valueBehind_append (by decide)]

theorem ofText_outputJoined (path : String) :
    ofText ("--output=" ++ path) = .output (valueBehind "--output=" path) := by
  have hequals : '=' ∈ ("--output=" ++ path).toList := by simp
  have hother : "--output=" ++ path ∉ words.map (·.1) := fun h => words_plain _ h hequals
  have hdeny : "--deny=".toList.isPrefixOf ("--output=" ++ path).toList = false := by
    rw [String.toList_append]
    rfl
  have hstarts : "--output=".toList.isPrefixOf ("--output=" ++ path).toList = true := by simp
  rw [ofText_other hother, hdeny, if_neg Bool.false_ne_true, if_pos hstarts,
    valueBehind_append (by decide)]

theorem ofText_path (h : text.toList.head? ≠ some '-') : ofText text = .output text := by
  have hother : text ∉ words.map (·.1) := fun hword => h (words_start _ hword)
  have hmark : ∀ mark : List Char, ('-' :: mark).isPrefixOf text.toList = false := by
    intro mark
    rw [Bool.eq_false_iff]
    intro hstarts
    obtain ⟨rest, hrest⟩ := List.isPrefixOf_iff_prefix.1 hstarts
    exact h (by rw [← hrest]; rfl)
  have hdeny : "--deny=".toList.isPrefixOf text.toList = false := hmark _
  have houtput : "--output=".toList.isPrefixOf text.toList = false := hmark _
  rw [ofText_other hother, hdeny, houtput, if_neg Bool.false_ne_true, if_neg Bool.false_ne_true,
    if_neg h]

end Argument

/-- A complete piece of a list of arguments: one of them, or an option with its value behind it. -/
inductive Piece where
  | help (short : Bool)
  | version (short : Bool)
  | verbose (short : Bool)
  | color (on : Bool)
  | strict
  | deny (label : String)
  | denyJoined (label : String)
  | output (short : Bool) (path : String)
  | outputJoined (path : String)
  /-- What does not look like an option, or a dash alone. -/
  | positional (path : String) (plain : path.toList.head? ≠ some '-' ∨ path = "-")
deriving DecidableEq

def Piece.arguments : Piece → List String
  | help short => [if short then "-h" else "--help"]
  | version short => [if short then "-V" else "--version"]
  | verbose short => [if short then "-v" else "--verbose"]
  | color on => [if on then "--color" else "--no-color"]
  | strict => ["--strict"]
  | deny label => ["--deny", label]
  | denyJoined label => ["--deny=" ++ label]
  | output short path => [if short then "-o" else "--output", path]
  | outputJoined path => ["--output=" ++ path]
  | positional path _ => [path]

/-- What parsing says in the end. -/
abbrev Verdict := Except UsageError Request

/-- What a piece makes of the settings, or the verdict if it decides that. -/
def Settings.take (s : Settings) : Piece → Except Verdict Settings
  | .help _ => .error (.ok .help)
  | .version _ => .error (.ok .version)
  | .verbose _ => .ok { s with verbose := true }
  | .color on => .ok { s with color := on }
  | .strict => .ok { s with deny := .all }
  | .deny label => (s.addDenied label).mapError .error
  | .denyJoined label => (s.addDenied (valueBehind "--deny=" label)).mapError .error
  | .output _ path => (s.setOutput path).mapError .error
  | .outputJoined path => (s.setOutput (valueBehind "--output=" path)).mapError .error
  | .positional path _ => (s.setOutput path).mapError .error

/-- The verdict reached, or the one to which the arguments that remain lead. -/
def conclude (rest : List String) : Except Verdict Settings → Verdict
  | .error verdict => verdict
  | .ok s => s.read rest

section Reading

variable (s : Settings) (rest : List String)

theorem bind_read (x : Except UsageError Settings) :
    (x >>= fun t => t.read rest) = conclude rest (x.mapError .error) := by
  cases x with
  | error e => rfl
  | ok t => rfl

theorem read_piece (p : Piece) : s.read (p.arguments ++ rest) = conclude rest (s.take p) := by
  cases p with
  | help short => cases short <;> rfl
  | version short => cases short <;> rfl
  | verbose short => cases short <;> rfl
  | color on => cases on <;> rfl
  | strict => rfl
  | deny label => exact bind_read rest (s.addDenied label)
  | denyJoined label =>
    rw [Piece.arguments, List.singleton_append, Settings.read.eq_def]
    simp only [Argument.ofText_denyJoined]
    exact bind_read rest _
  | output short path => cases short <;> exact bind_read rest (s.setOutput path)
  | outputJoined path =>
    rw [Piece.arguments, List.singleton_append, Settings.read.eq_def]
    simp only [Argument.ofText_outputJoined]
    exact bind_read rest _
  | positional path plain =>
    have htext : Argument.ofText path = .output path := by
      rcases plain with hplain | rfl
      · exact Argument.ofText_path hplain
      · rfl
    rw [Piece.arguments, List.singleton_append, Settings.read.eq_def]
    simp only [htext]
    exact bind_read rest _

/-- Pieces are read one by one until one of them decides the verdict. -/
theorem read_pieces (pieces : List Piece) :
    s.read (pieces.flatMap Piece.arguments ++ rest) =
      conclude rest (pieces.foldlM Settings.take s) := by
  induction pieces generalizing s with
  | nil => rfl
  | cons p pieces ih =>
    rw [List.flatMap_cons, List.append_assoc, read_piece, List.foldlM_cons]
    cases s.take p with
    | error verdict => rfl
    | ok t => exact ih t

end Reading

section Splitting

/-- The options whose value is the next argument. -/
def valued : List String := ["--deny", "-o", "--output"]

/-- What may stand behind the complete pieces. -/
inductive Ending : List String → Prop
  | nothing : Ending []
  | waiting {option : String} (h : option ∈ valued) : Ending [option]
  | unknown {argument : String} {rest : List String} (h : Argument.ofText argument = .unknown) :
    Ending (argument :: rest)

theorem exists_piece_word : ∀ text ∈ Argument.words.map (·.1), text ∈ valued ∨
    ∃ p ∈ [.help true, .help false, .version true, .version false, .verbose true, .verbose false,
      .color true, .color false, .strict, Piece.positional "-" (.inr rfl)],
      p.arguments = [text] := by decide

theorem exists_eq_append {mark text : String} (h : mark.toList.isPrefixOf text.toList = true) :
    ∃ value, text = mark ++ value := by
  obtain ⟨rest, hrest⟩ := List.isPrefixOf_iff_prefix.1 h
  refine ⟨.ofList rest, String.toList_inj.1 ?_⟩
  rw [String.toList_append, String.toList_ofList, hrest]

theorem exists_piece (argument : String) :
    argument ∈ valued ∨ (∃ p : Piece, p.arguments = [argument]) ∨
      Argument.ofText argument = .unknown := by
  by_cases hword : argument ∈ Argument.words.map (·.1)
  · rcases exists_piece_word argument hword with hvalued | ⟨p, -, hp⟩
    · exact .inl hvalued
    · exact .inr (.inl ⟨p, hp⟩)
  · refine .inr ?_
    have htext := Argument.ofText_other hword
    split_ifs at htext with hdeny houtput hdash
    · obtain ⟨label, rfl⟩ := exists_eq_append hdeny
      exact .inl ⟨.denyJoined label, rfl⟩
    · obtain ⟨path, rfl⟩ := exists_eq_append houtput
      exact .inl ⟨.outputJoined path, rfl⟩
    · exact .inr htext
    · exact .inl ⟨.positional argument (.inl hdash), rfl⟩

theorem exists_piece_valued (option value : String) (h : option ∈ valued) :
    ∃ p : Piece, p.arguments = [option, value] := by
  simp only [valued, List.mem_cons, List.not_mem_nil, or_false] at h
  rcases h with rfl | rfl | rfl
  · exact ⟨.deny value, rfl⟩
  · exact ⟨.output true value, rfl⟩
  · exact ⟨.output false value, rfl⟩

/-- Every list of arguments begins with complete pieces, as many as there are. -/
theorem exists_pieces : ∀ arguments : List String,
    ∃ (pieces : List Piece) (ending : List String), Ending ending ∧
      arguments = pieces.flatMap Piece.arguments ++ ending
  | [] => ⟨[], [], .nothing, rfl⟩
  | argument :: rest => by
    -- An option takes the next argument whatever it looks like, so two may go at once.
    rcases exists_piece argument with hvalued | ⟨p, hp⟩ | hunknown
    · match rest with
      | [] => exact ⟨[], [argument], .waiting hvalued, rfl⟩
      | value :: rest =>
        obtain ⟨p, hp⟩ := exists_piece_valued argument value hvalued
        obtain ⟨pieces, ending, hending, hrest⟩ := exists_pieces rest
        refine ⟨p :: pieces, ending, hending, ?_⟩
        rw [List.flatMap_cons, hp, hrest]
        rfl
    · obtain ⟨pieces, ending, hending, hrest⟩ := exists_pieces rest
      refine ⟨p :: pieces, ending, hending, ?_⟩
      rw [List.flatMap_cons, hp, hrest]
      rfl
    · exact ⟨[], argument :: rest, .unknown hunknown, rfl⟩

end Splitting

/-- Help, the version or an error other than that of a missing value. -/
def Decided : Verdict → Prop
  | .ok (.run _) => False
  | .error (.missingValue _) => False
  | _ => True

section Verdicts

variable {s t : Settings} {verdict : Verdict} {arguments rest : List String}
  {argument option : String}

theorem decided_of_addDenied {label : String}
    (h : (s.addDenied label).mapError (Except.error (α := Request)) = .error verdict) :
    Decided verdict := by
  unfold Settings.addDenied at h
  split at h
  · cases h
  · cases h
    trivial

theorem decided_of_setOutput {path : String}
    (h : (s.setOutput path).mapError (Except.error (α := Request)) = .error verdict) :
    Decided verdict := by
  unfold Settings.setOutput at h
  split at h
  · cases h
    trivial
  · cases h

theorem decided_of_take {p : Piece} (h : s.take p = .error verdict) : Decided verdict := by
  cases p with
  | help | version =>
    cases h
    trivial
  | verbose | color | strict => cases h
  | deny | denyJoined => exact decided_of_addDenied h
  | output | outputJoined | positional => exact decided_of_setOutput h

theorem decided_of_foldlM {pieces : List Piece}
    (h : pieces.foldlM Settings.take s = .error verdict) : Decided verdict := by
  induction pieces generalizing s with
  | nil => cases h
  | cons p pieces ih =>
    rw [List.foldlM_cons] at h
    cases htake : s.take p with
    | error v =>
      rw [htake] at h
      cases h
      exact decided_of_take htake
    | ok t =>
      rw [htake] at h
      exact ih h

theorem read_waiting (h : option ∈ valued) : s.read [option] = .error (.missingValue option) := by
  simp only [valued, List.mem_cons, List.not_mem_nil, or_false] at h
  rcases h with rfl | rfl | rfl <;> rfl

theorem read_unknown (h : Argument.ofText argument = .unknown) :
    s.read (argument :: rest) = .error (.unknownOption argument) := by
  rw [Settings.read.eq_def]
  simp only [h]

theorem conclude_eq_run_iff {pieces : List Piece} :
    conclude rest (pieces.foldlM Settings.take s) = .ok (.run t) ↔
      ∃ s', pieces.foldlM Settings.take s = .ok s' ∧ s'.read rest = .ok (.run t) := by
  cases htake : pieces.foldlM Settings.take s with
  | error verdict =>
    have hdecided := decided_of_foldlM htake
    constructor
    · intro h
      change verdict = _ at h
      rw [h] at hdecided
      cases hdecided
    · rintro ⟨s', h, -⟩
      cases h
  | ok s' =>
    constructor
    · intro h
      exact ⟨s', rfl, h⟩
    · rintro ⟨s'', h, hread⟩
      cases h
      exact hread

theorem read_pieces_eq_run_iff {pieces : List Piece} :
    s.read (pieces.flatMap Piece.arguments) = .ok (.run t) ↔
      ∃ s', pieces.foldlM Settings.take s = .ok s' ∧ t = s'.resolveOutput := by
  have hread := read_pieces s [] pieces
  rw [List.append_nil] at hread
  rw [hread, conclude_eq_run_iff]
  simp only [Settings.read, Except.ok.injEq, Request.run.injEq, eq_comm]

/-- Only complete pieces make a run. -/
theorem exists_pieces_of_run (h : s.read arguments = .ok (.run t)) :
    ∃ (pieces : List Piece) (s' : Settings), arguments = pieces.flatMap Piece.arguments ∧
      pieces.foldlM Settings.take s = .ok s' := by
  obtain ⟨pieces, ending, hending, rfl⟩ := exists_pieces arguments
  rw [read_pieces] at h
  obtain ⟨s', htake, hread⟩ := conclude_eq_run_iff.1 h
  refine ⟨pieces, s', ?_, htake⟩
  cases hending with
  | nothing => exact List.append_nil _
  | waiting hvalued =>
    rw [read_waiting hvalued] at hread
    cases hread
  | unknown hunknown =>
    rw [read_unknown hunknown] at hread
    cases hread

end Verdicts

end TextMate.Command
