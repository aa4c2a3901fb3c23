import TextMate.Proofs.Arguments.Groups

/-! What complete pieces of arguments come to, in whatever order they stand. -/
namespace TextMate.Command

namespace Piece

/-- The label of the kind that a piece denies. -/
@[simp] def denied? : Piece → Option String
  | deny label => some label
  | denyJoined label => some (valueBehind "--deny=" label)
  | _ => none

@[simp] def path? : Piece → Option String
  | output _ path => some path
  | outputJoined path => some (valueBehind "--output=" path)
  | positional path _ => some path
  | _ => none

@[simp] def color? : Piece → Option Bool
  | color on => some on
  | _ => none

@[simp] def isVerbose : Piece → Bool
  | verbose _ => true
  | _ => false

@[simp] def endsReading : Piece → Bool
  | help _ => true
  | version _ => true
  | _ => false

/-- Strictness denies every kind. -/
def denies (kind : FindingKind) (p : Piece) : Bool := p = strict || p.denied? = some kind.label

/-- The piece does not end the reading, and what it denies is a kind. -/
@[mk_iff]
structure Acceptable (p : Piece) : Prop where
  goesOn : p.endsReading = false
  known : ∀ label, p.denied? = some label → ∃ kind : FindingKind, label = kind.label

end Piece

namespace Settings

/-- The settings behind some pieces, each setting told by itself. -/
def gather (s : Settings) (pieces : List Piece) : Settings where
  output := (s.output.toList ++ pieces.filterMap Piece.path?).head?
  deny := {
    unused := s.deny.unused || pieces.any (·.denies .unused)
    singleUse := s.deny.singleUse || pieces.any (·.denies .singleUse) }
  verbose := s.verbose || pieces.any Piece.isVerbose
  color := (pieces.filterMap Piece.color?).getLast?.getD s.color

/-- A path is given at most once, by the settings or by a piece. -/
def OnePath (s : Settings) (pieces : List Piece) : Prop :=
  (s.output.toList ++ pieces.filterMap Piece.path?).length ≤ 1

end Settings

section Gathering

variable {s t : Settings} {p : Piece} {pieces : List Piece}

theorem ofLabel?_eq_some_iff {label : String} {kind : FindingKind} :
    FindingKind.ofLabel? label = some kind ↔ label = kind.label := by
  constructor
  · intro h
    have hlabel := List.find?_some h
    exact (of_decide_eq_true hlabel).symm
  · rintro rfl
    cases kind <;> rfl

theorem insert_eq (deny : FindingSet) (kind : FindingKind) :
    deny.insert kind =
      ⟨deny.unused || kind.label = FindingKind.unused.label,
        deny.singleUse || kind.label = FindingKind.singleUse.label⟩ := by
  cases kind with
  | unused => simp [FindingSet.insert, FindingKind.label]
  | singleUse => simp [FindingSet.insert, FindingKind.label]

theorem addDenied_eq_ok_iff {label : String} :
    (s.addDenied label).mapError (Except.error (α := Request)) = .ok t ↔
      (∃ kind : FindingKind, label = kind.label) ∧
        t = { s with
          deny := ⟨s.deny.unused || label = FindingKind.unused.label,
            s.deny.singleUse || label = FindingKind.singleUse.label⟩ } := by
  unfold Settings.addDenied
  cases h : FindingKind.ofLabel? label with
  | none =>
    have hunknown : ¬ ∃ kind : FindingKind, label = kind.label := by
      rintro ⟨kind, hkind⟩
      rw [ofLabel?_eq_some_iff.2 hkind] at h
      cases h
    simp [Except.mapError, hunknown]
  | some kind =>
    obtain rfl := ofLabel?_eq_some_iff.1 h
    simp [Except.mapError, insert_eq, eq_comm]

theorem setOutput_eq_ok_iff {path : String} :
    (s.setOutput path).mapError (Except.error (α := Request)) = .ok t ↔
      s.output = none ∧ t = { s with output := some path } := by
  unfold Settings.setOutput
  cases s.output with
  | none => simp [Except.mapError, eq_comm]
  | some other => simp [Except.mapError]

theorem length_toList_le (o : Option String) : o.toList.length ≤ 1 := by
  cases o <;> simp

/-- What one piece makes of the settings, if it makes anything of them. -/
theorem take_eq_ok_iff :
    s.take p = .ok t ↔ p.Acceptable ∧ s.OnePath [p] ∧ t = s.gather [p] := by
  have hone := length_toList_le s.output
  have hhead : s.output.toList.head? = s.output := by cases s.output <;> rfl
  rw [Piece.acceptable_iff, Settings.OnePath, Settings.gather]
  cases p with
  | help short => simp [Settings.take]
  | version short => simp [Settings.take]
  | verbose short =>
    simp [Settings.take, Piece.denies, List.filterMap_cons, hone, hhead, eq_comm]
  | color on => simp [Settings.take, Piece.denies, List.filterMap_cons, hone, hhead, eq_comm]
  | strict =>
    simp [Settings.take, Piece.denies, FindingSet.all, List.filterMap_cons, hone, hhead, eq_comm]
  | deny label | denyJoined label =>
    rw [Settings.take, addDenied_eq_ok_iff]
    simp [Piece.denies, List.filterMap_cons, hone, hhead]
  | output short path | outputJoined path | positional path plain =>
    rw [Settings.take, setOutput_eq_ok_iff]
    cases s.output with
    | none => simp [Piece.denies]
    | some other => simp

theorem toList_head? {α : Type} {l : List α} (h : l.length ≤ 1) : l.head?.toList = l := by
  match l with
  | [] => rfl
  | [a] => rfl

theorem gather_append {before : List Piece} (hone : s.OnePath before) (pieces : List Piece) :
    (s.gather before).gather pieces = s.gather (before ++ pieces) := by
  have hpath := toList_head? hone
  unfold Settings.gather
  simp only [hpath, List.filterMap_append, List.any_append, List.append_assoc, List.getLast?_append,
    Option.getD_or, Bool.or_assoc]

theorem onePath_append {before : List Piece} :
    s.OnePath (before ++ pieces) ↔ s.OnePath before ∧ (s.gather before).OnePath pieces := by
  unfold Settings.OnePath
  rw [List.filterMap_append, ← List.append_assoc]
  constructor
  · intro h
    have hbefore : (s.output.toList ++ before.filterMap Piece.path?).length ≤ 1 := by
      rw [List.length_append] at h
      omega
    refine ⟨hbefore, ?_⟩
    rwa [Settings.gather, toList_head? hbefore]
  · rintro ⟨hbefore, h⟩
    rwa [Settings.gather, toList_head? hbefore] at h

/-- The pieces that make a run, and what they make of the settings. -/
theorem foldlM_take_eq_ok_iff :
    pieces.foldlM Settings.take s = .ok t ↔
      (∀ p ∈ pieces, p.Acceptable) ∧ s.OnePath pieces ∧ t = s.gather pieces := by
  induction pieces generalizing s with
  | nil =>
    have hone : s.OnePath [] := by
      rw [Settings.OnePath, List.filterMap_nil, List.append_nil]
      exact length_toList_le s.output
    have hgather : s.gather [] = s := by
      cases s with
      | mk output deny verbose color => cases output <;> simp [Settings.gather]
    simp [hone, hgather, pure, Except.pure, eq_comm]
  | cons p pieces ih =>
    -- The settings behind the first piece are where the gathering from the others starts.
    have hsplit : p :: pieces = [p] ++ pieces := rfl
    rw [List.foldlM_cons, List.forall_mem_cons, hsplit, onePath_append]
    constructor
    · intro h
      cases htake : s.take p with
      | error verdict =>
        rw [htake] at h
        cases h
      | ok s₁ =>
        rw [htake] at h
        obtain ⟨hp, hone, rfl⟩ := take_eq_ok_iff.1 htake
        obtain ⟨hpieces, hrest, rfl⟩ := ih.1 h
        exact ⟨⟨hp, hpieces⟩, ⟨hone, hrest⟩, gather_append hone pieces⟩
    · rintro ⟨⟨hp, hpieces⟩, ⟨hone, hrest⟩, rfl⟩
      rw [take_eq_ok_iff.2 ⟨hp, hone, rfl⟩]
      exact ih.2 ⟨hpieces, hrest, (gather_append hone pieces).symm⟩

end Gathering

section Permuting

variable {s : Settings} {pieces pieces' : List Piece}

theorem eq_of_perm {α : Type} {l l' : List α} (hperm : l'.Perm l) (h : l.length ≤ 1) : l' = l := by
  match l with
  | [] => exact hperm.eq_nil
  | [a] => exact List.perm_singleton.1 hperm

theorem gather_perm (hperm : pieces'.Perm pieces)
    (hcolor : pieces'.filterMap Piece.color? = pieces.filterMap Piece.color?)
    (hone : s.OnePath pieces) : s.gather pieces' = s.gather pieces := by
  have hpaths := (hperm.filterMap Piece.path?).append_left s.output.toList
  have hany : ∀ q : Piece → Bool, pieces'.any q = pieces.any q := fun q => hperm.any_eq
  unfold Settings.gather
  simp only [eq_of_perm hpaths hone, hany, hcolor]

theorem onePath_perm (hperm : pieces'.Perm pieces) : s.OnePath pieces' ↔ s.OnePath pieces := by
  unfold Settings.OnePath
  rw [((hperm.filterMap Piece.path?).append_left s.output.toList).length_eq]

end Permuting

section Resolving

variable (s : Settings)

@[simp] theorem resolveOutput_deny : s.resolveOutput.deny = s.deny := by
  unfold Settings.resolveOutput
  split <;> rfl

@[simp] theorem resolveOutput_verbose : s.resolveOutput.verbose = s.verbose := by
  unfold Settings.resolveOutput
  split <;> rfl

@[simp] theorem resolveOutput_color : s.resolveOutput.color = s.color := by
  unfold Settings.resolveOutput
  split <;> rfl

@[simp] theorem resolveOutput_output : s.resolveOutput.output = s.output.filter (· ≠ "-") := by
  unfold Settings.resolveOutput
  cases houtput : s.output with
  | none => simp [houtput]
  | some path =>
    by_cases hdash : path = "-"
    · simp [hdash, Option.filter_some]
    · simp [hdash, Option.filter_some, houtput]

end Resolving

section Gathered

variable {pieces : List Piece}

theorem any_denies_iff (kind : FindingKind) :
    (pieces.any fun p => p.denies kind) = true ↔
      .strict ∈ pieces ∨ ∃ p ∈ pieces, p.denied? = some kind.label := by
  simp only [List.any_eq_true, Piece.denies, Bool.or_eq_true, decide_eq_true_eq, and_or_left,
    exists_or, exists_eq_right]

theorem any_isVerbose_iff :
    pieces.any Piece.isVerbose = true ↔ ∃ short, .verbose short ∈ pieces := by
  rw [List.any_eq_true]
  constructor
  · rintro ⟨p, hp, hverbose⟩
    cases p with
    | verbose short => exact ⟨short, hp⟩
    | _ => cases hverbose
  · rintro ⟨short, hp⟩
    exact ⟨.verbose short, hp, rfl⟩

end Gathered

/--
Complete pieces that make a run make the same run in every order that leaves the flags for colour in
theirs. The denied kinds are those that a piece denies, color is as the last of its flags
says, and there is one path at most, that of a piece. A value that is joined to its option is the
one meant unless it begins with that option again.
-/
theorem parseArguments_perm (terminal : Bool) (pieces : List Piece) (settings : Settings)
    (h : parseArguments terminal (pieces.flatMap Piece.arguments) = .ok (.run settings)) :
    (∀ pieces' : List Piece, pieces'.Perm pieces →
      pieces'.filterMap Piece.color? = pieces.filterMap Piece.color? →
      parseArguments terminal (pieces'.flatMap Piece.arguments) = .ok (.run settings)) ∧
    (∀ kind, settings.deny.contains kind = true ↔
      .strict ∈ pieces ∨ ∃ p ∈ pieces, p.denied? = some kind.label) ∧
    (∀ p ∈ pieces, ∀ label, p.denied? = some label → ∃ kind : FindingKind, label = kind.label) ∧
    (settings.verbose = true ↔ ∃ short, .verbose short ∈ pieces) ∧
    settings.color = (pieces.filterMap Piece.color?).getLast?.getD terminal ∧
    (pieces.filterMap Piece.path?).length ≤ 1 ∧
    settings.output = (pieces.filterMap Piece.path?).head?.filter (· ≠ "-") ∧
    (∀ path, ¬ "--output=".toList <+: path.toList →
      (Piece.outputJoined path).path? = some path) ∧
    ∀ label, ¬ "--deny=".toList <+: label.toList →
      (Piece.denyJoined label).denied? = some label := by
  obtain ⟨t, htake, rfl⟩ := read_pieces_eq_run_iff.1 h
  obtain ⟨hpieces, hone, rfl⟩ := foldlM_take_eq_ok_iff.1 htake
  refine ⟨fun pieces' hperm hcolor => ?_, fun kind => ?_, fun p hp => (hpieces p hp).known, ?_, ?_,
    hone, ?_, ?_, ?_⟩
  · have hpieces' : ∀ p ∈ pieces', p.Acceptable := fun p hp => hpieces p (hperm.mem_iff.1 hp)
    have hgather := gather_perm hperm hcolor hone
    refine read_pieces_eq_run_iff.2 ⟨_, foldlM_take_eq_ok_iff.2 ⟨hpieces', ?_, rfl⟩, ?_⟩
    · exact (onePath_perm hperm).2 hone
    · rw [hgather]
  · rw [← any_denies_iff]
    cases kind with
    | unused => simp [Settings.gather, FindingSet.contains, FindingSet.none]
    | singleUse => simp [Settings.gather, FindingSet.contains, FindingSet.none]
  · rw [← any_isVerbose_iff]
    simp [Settings.gather]
  · simp [Settings.gather]
  · simp [Settings.gather]
  · intro path hpath
    rw [Piece.path?, valueBehind_eq_self hpath]
  · intro label hlabel
    rw [Piece.denied?, valueBehind_eq_self hlabel]

/-- A path that looks like an option, and both flags for colour. -/
theorem parseArguments_perm_colors :
    parseArguments true ["-o", "--help", "--color", "--deny", "unused", "-v", "--no-color"] =
      .ok (.run { output := some "--help", deny := ⟨true, false⟩, verbose := true }) ∧
    parseArguments true ["-v", "--color", "--no-color", "--deny", "unused", "-o", "--help"] =
      .ok (.run { output := some "--help", deny := ⟨true, false⟩, verbose := true }) := by
  have h : parseArguments true ["-o", "--help", "--color", "--deny", "unused", "-v", "--no-color"] =
      .ok (.run { output := some "--help", deny := ⟨true, false⟩, verbose := true }) := rfl
  refine ⟨h, ?_⟩
  exact (parseArguments_perm true
    [.output true "--help", .color true, .deny "unused", .verbose true, .color false] _ h).1
    [.verbose true, .color true, .color false, .deny "unused", .output true "--help"]
    (by decide) rfl

/-- The option is taken off twice, and the path is not the text behind the first one. -/
theorem parseArguments_output_repeated :
    parseArguments true (Piece.outputJoined "--output=sub/x").arguments =
        .ok (.run { output := some "sub/x", color := true }) ∧
      "sub/x" ≠ "--output=sub/x" := by
  have hvalue : valueBehind "--output=" "--output=sub/x" = "sub/x" :=
    valueBehind_once "--output=" "sub/x" (by decide) (by decide)
  refine ⟨?_, by decide⟩
  rw [Piece.arguments, parseArguments, Settings.read.eq_def]
  simp only [Argument.ofText_outputJoined, hvalue]
  rfl

end TextMate.Command
