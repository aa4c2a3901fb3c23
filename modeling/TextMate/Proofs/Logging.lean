import TextMate.Proofs.Denial
import TextMate.Proofs.Rewriting

/-! A run that writes its log as it goes, at a level that is shown. -/
namespace TextMate

/-- What is written before a failure stays written. -/
abbrev Logged := EStateM GrammarError (List Event)

namespace Logging

/-- The pass of a compaction, with a log. -/
abbrev Step := StateT Compaction.State Logged

/-- The end of a computation, with the log written until then. -/
def ended {α : Type} (log : List Event) :
    Except GrammarError α → EStateM.Result GrammarError (List Event) α
  | .ok a => .ok a log
  | .error e => .error e log

section Program

variable (shown : Level)

/-- An event that is more detailed than the level shown is not written. -/
def tell (e : Event) : Logged Unit :=
  modify fun log => log ++ Event.upTo shown [e]

/-- Writes a line for every include met, with the count that it brings its name to. -/
def count (repository : Repository) (seen : List String) (counts : UseCounts) :
    List Rule → Logged UseCounts
  | [] => return counts
  | .reference (.external _) _ :: pending => count repository seen counts pending
  | .reference (.entry name) _ :: pending => do
    let counts := counts.addUse name
    tell shown (.countedInclude name (counts.get name))
    if name ∈ seen then
      count repository seen counts pending
    else
      match _h : repository.get? name with
      | none => throw (.unresolved name)
      | some body => count repository (name :: seen) counts (body :: pending)
  | .leaf r :: pending => count repository seen counts ((Rule.leaf r).children ++ pending)
  | .region r :: pending => count repository seen counts ((Rule.region r).children ++ pending)
  | .group r :: pending => count repository seen counts ((Rule.group r).children ++ pending)
termination_by pending => Repository.unseenSize seen repository.entries + Rule.sizeList pending
decreasing_by
  · simp [Rule.sizeList, Rule.size]
  · simp [Rule.sizeList, Rule.size]
  · have := Repository.unseenSize_cons_add_size_le ‹_› (Table.get?_eq_some_iff.1 ‹_›)
    simp only [Rule.sizeList, Rule.size]
    omega
  all_goals
    simp only [Rule.sizeList_append, Rule.sizeList, Rule.size_eq]
    omega

end Program

end Logging

open Logging in
/-- All findings are written before some of them are refused. -/
def Grammar.logged (shown : Level) (g : Grammar) (deny : FindingSet) : Logged Report := do
  match g.check with
  | .error e => throw e
  | .ok () =>
    let counts ← count shown g.repository [] .empty g.patterns
    tell shown (.countedReferences counts.size g.repository.size)
    let c ← Compaction.ofCountsM (tell shown) counts g.patterns g.repository
    let report := Report.ofCompaction g counts c
    report.findings.forM fun d => tell shown (.warning d)
    let denied := report.findings.filter fun d => deny.contains d.kind
    if denied.isEmpty then
      return report
    else
      throw (.denied denied)

namespace Logging

section Writing

variable {shown : Level} {α β : Type} {log log' : List Event}

theorem upTo_append (level : Level) (xs ys : List Event) :
    Event.upTo level (xs ++ ys) = Event.upTo level xs ++ Event.upTo level ys :=
  List.filter_append xs ys

theorem append_upTo_nil (shown : Level) (log : List Event) : log ++ Event.upTo shown [] = log :=
  List.append_nil log

theorem run_tell (e : Event) :
    (tell shown e).run log = .ok () (log ++ Event.upTo shown [e]) := rfl

theorem run_bind_log {x : Logged α} {a : α} (h : x.run log = .ok a log') (k : α → Logged β) :
    (x >>= k).run log = (k a).run log' := by
  change EStateM.bind x k log = k a log'
  change x log = .ok a log' at h
  rw [EStateM.bind, h]

theorem run_bind_error {x : Logged α} {e : GrammarError} (h : x.run log = .error e log')
    (k : α → Logged β) : (x >>= k).run log = .error e log' := by
  change EStateM.bind x k log = .error e log'
  change x log = .error e log' at h
  rw [EStateM.bind, h]

theorem run_forM_tell {ι : Type} (event : ι → Event) (xs : List ι) :
    (xs.forM fun x => tell shown (event x)).run log =
      .ok () (log ++ Event.upTo shown (xs.map event)) := by
  induction xs generalizing log with
  | nil =>
    rw [List.map_nil, append_upTo_nil]
    rfl
  | cons x rest ih =>
    have hsplit : List.map event (x :: rest) = [event x] ++ rest.map event := rfl
    rw [hsplit, upTo_append, ← List.append_assoc]
    unfold List.forM
    exact (run_bind_log (run_tell (event x)) _).trans ih

end Writing

section Counting

/-- The events of counting some names one after the other. -/
def countedIncludes (counts : UseCounts) (names : List String) : List Event :=
  (counts.tally names).map fun use => .countedInclude use.1 use.2

variable {shown : Level} {repository : Repository} {seen : List String} {counts : UseCounts}
  {pending : List Rule} {name : String} {tag : Option String} {log : List Event}

theorem count_inside {r : Rule} (href : r.reference? = none) :
    count shown repository seen counts (r :: pending) =
      count shown repository seen counts (r.children ++ pending) := by
  cases r with
  | reference target tag =>
    cases target with
    | entry name => cases href
    | external text => rw [count]; rfl
  | leaf r => rw [count]
  | region r => rw [count]
  | group r => rw [count]

theorem count_seen (hs : name ∈ seen) :
    count shown repository seen counts (.reference (.entry name) tag :: pending) =
      (do tell shown (.countedInclude name (counts.get name + 1))
          count shown repository seen (counts.addUse name) pending) := by
  rw [count]
  simp only [if_pos hs, UseCounts.get_addUse, if_true]

theorem count_missing (hs : name ∉ seen) (hb : repository.get? name = none) :
    count shown repository seen counts (.reference (.entry name) tag :: pending) =
      (do tell shown (.countedInclude name (counts.get name + 1))
          throw (.unresolved name)) := by
  rw [count]
  simp only [if_neg hs, UseCounts.get_addUse, if_true]
  split
  · rfl
  · rename_i body hsome
    rw [hb] at hsome
    cases hsome

theorem count_enter {body : Rule} (hs : name ∉ seen) (hb : repository.get? name = some body) :
    count shown repository seen counts (.reference (.entry name) tag :: pending) =
      (do tell shown (.countedInclude name (counts.get name + 1))
          count shown repository (name :: seen) (counts.addUse name) (body :: pending)) := by
  rw [count]
  simp only [if_neg hs, UseCounts.get_addUse, if_true]
  split
  · rename_i hnone
    rw [hb] at hnone
    cases hnone
  · rename_i body' hsome
    rw [hb] at hsome
    cases hsome
    rfl

/-- The counts at the end of a walk, or the name at which it ends. -/
def walked (counts : UseCounts) (w : Walk) : Except GrammarError UseCounts :=
  match w.missing with
  | some name => .error (.unresolved name)
  | none => .ok (w.names.foldl UseCounts.addUse counts)

theorem ended_meet (w : Walk) :
    ended (log ++ Event.upTo shown (countedIncludes counts (w.meet name).names))
        (walked counts (w.meet name)) =
      ended (log ++ Event.upTo shown [.countedInclude name (counts.get name + 1)] ++
          Event.upTo shown (countedIncludes (counts.addUse name) w.names))
        (walked (counts.addUse name) w) := by
  rw [List.append_assoc, ← upTo_append]
  rfl

/-- Counting with a log goes the way of the walk. -/
theorem run_count (seen : List String) (pending : List Rule) :
    ∀ counts log, (count shown repository seen counts pending).run log =
      ended (log ++ Event.upTo shown
          (countedIncludes counts (repository.walkFrom seen pending).names))
        (walked counts (repository.walkFrom seen pending)) := by
  -- Each step of the walk has its own counts and its own log before it.
  induction seen, pending using Repository.walkFrom_induction repository with
  | nil seen =>
    intro counts log
    rw [count, Repository.walkFrom]
    exact congrArg (EStateM.Result.ok counts) (append_upTo_nil shown log).symm
  | inside seen r pending href ih =>
    intro counts log
    rw [count_inside href, Repository.walkFrom_inside href, ih]
  | again seen name tag pending hs ih =>
    intro counts log
    rw [count_seen hs, Repository.walkFrom_seen hs, run_bind_log (run_tell _), ih, ended_meet]
  | missing seen name tag pending hs hb =>
    intro counts log
    rw [count_missing hs hb, Repository.walkFrom_missing hs hb, run_bind_log (run_tell _)]
    rfl
  | enter seen name tag pending body hs hb ih =>
    intro counts log
    rw [count_enter hs hb, Repository.walkFrom_enter hs hb, run_bind_log (run_tell _), ih,
      ended_meet]

end Counting

section Following

open Compaction (State)

/-- What is written about the names that a pass has inlined so far. -/
def inlinedLines (shown : Level) (s : State) : List Event :=
  Event.upTo shown (s.inlined.map .inlinedRule)

/-- The logged computation succeeds like the plain one, and its log grows with the names inlined. -/
def Follows {α : Type} (shown : Level) (x : Compaction.Step α) (y : Step α) : Prop :=
  ∀ before s a s', x.run s = .ok (a, s') →
    (y.run s).run (before ++ inlinedLines shown s) =
      .ok (a, s') (before ++ inlinedLines shown s')

variable {shown : Level} {α β : Type} {counts : UseCounts} {active : List String}

theorem follows_pure (a : α) : Follows shown (pure a) (pure a) := by
  intro before s b s' h
  cases h
  rfl

theorem follows_get : Follows shown get get := by
  intro before s a s' h
  cases h
  rfl

theorem follows_modify {f : State → State} (hf : ∀ s, (f s).inlined = s.inlined) :
    Follows shown (modify f) (modify f) := by
  intro before s a s' h
  cases h
  have hlines : inlinedLines shown (f s) = inlinedLines shown s := by
    rw [inlinedLines, hf, inlinedLines]
  rw [hlines]
  rfl

/-- There is nothing to follow if the plain computation fails. -/
theorem follows_throw (e : GrammarError) (y : Step α) : Follows shown (throw e) y := by
  intro before s a s' h
  cases h

theorem follows_recordM (name : String) :
    Follows shown (Compaction.recordM Compaction.silent name)
      (Compaction.recordM (tell shown) name) := by
  intro before s a s' h
  cases h
  have hlines : inlinedLines shown { s with inlined := s.inlined ++ [name] } =
      inlinedLines shown s ++ Event.upTo shown [.inlinedRule name] := by
    rw [inlinedLines, List.map_append, upTo_append]
    rfl
  rw [hlines, ← List.append_assoc]
  rfl

theorem Follows.bind {x : Compaction.Step α} {y : Step α} {f : α → Compaction.Step β}
    {g : α → Step β} (hx : Follows shown x y) (hf : ∀ a, Follows shown (f a) (g a)) :
    Follows shown (x >>= f) (y >>= g) := by
  intro before s b s' h
  obtain ⟨a, s₁, hrun, hrest⟩ := run_bind_eq_ok h
  have hfirst := hx before s a s₁ hrun
  have hsecond := hf a before s₁ b s' hrest
  rw [StateT.run_bind, run_bind_log hfirst]
  exact hsecond

theorem Follows.ite {p : Prop} [Decidable p] {x x' : Compaction.Step α} {y y' : Step α}
    (hx : Follows shown x y) (hx' : Follows shown x' y') :
    Follows shown (if p then x else x') (if p then y else y') := by
  by_cases hp : p
  · simpa only [if_pos hp] using hx
  · simpa only [if_neg hp] using hx'

theorem Follows.forM {ι : Type} {x : ι → Compaction.Step Unit} {y : ι → Step Unit}
    (hx : ∀ i, Follows shown (x i) (y i)) (is : List ι) :
    Follows shown (is.forM x) (is.forM y) := by
  induction is with
  | nil => exact follows_pure ()
  | cons i rest ih => exact (hx i).bind fun _ => ih

section Replacing

variable {f : Include → Option String → Compaction.Step Rule}
  {g : Include → Option String → Step Rule}

mutual

/-- What follows at each include follows at a whole rule. -/
theorem follows_mapIncludesM (hf : ∀ target tag, Follows shown (f target tag) (g target tag)) :
    ∀ r, Follows shown (Rule.mapIncludesM f r) (Rule.mapIncludesM g r)
  | .reference target tag => hf target tag
  | .leaf ⟨_, captures, _⟩ =>
    (follows_mapIncludesCapturesM hf captures).bind fun _ => follows_pure _
  | .region ⟨_, openingCaptures, _, closingCaptures, captures, _, patterns, _⟩ =>
    (follows_mapIncludesCapturesM hf openingCaptures).bind fun _ =>
      (follows_mapIncludesCapturesM hf closingCaptures).bind fun _ =>
        (follows_mapIncludesCapturesM hf captures).bind fun _ =>
          (follows_mapIncludesListM hf patterns).bind fun _ => follows_pure _
  | .group ⟨patterns, _⟩ => (follows_mapIncludesListM hf patterns).bind fun _ => follows_pure _

theorem follows_mapIncludesListM (hf : ∀ target tag, Follows shown (f target tag) (g target tag)) :
    ∀ rs, Follows shown (Rule.mapIncludesListM f rs) (Rule.mapIncludesListM g rs)
  | [] => follows_pure []
  | r :: rest =>
    (follows_mapIncludesM hf r).bind fun _ =>
      (follows_mapIncludesListM hf rest).bind fun _ => follows_pure _

theorem follows_mapIncludesCapturesM
    (hf : ∀ target tag, Follows shown (f target tag) (g target tag)) :
    ∀ cs, Follows shown (Rule.mapIncludesCapturesM f cs) (Rule.mapIncludesCapturesM g cs)
  | [] => follows_pure []
  | ⟨_, patterns, _⟩ :: rest =>
    (follows_mapIncludesListM hf patterns).bind fun _ =>
      (follows_mapIncludesCapturesM hf rest).bind fun _ => follows_pure _

end

end Replacing

theorem follows_replace {inlined : String → Option String → Compaction.Step Rule}
    {inlined' : String → Option String → Step Rule}
    (hin : ∀ name tag, Follows shown (inlined name tag) (inlined' name tag))
    (target : Include) (tag : Option String) :
    Follows shown (Compaction.replace counts active inlined target tag)
      (Compaction.replace counts active inlined' target tag) := by
  cases target with
  | external text => exact follows_pure _
  | entry name =>
    refine (follows_pure _).ite (.ite ?_ (hin name tag))
    exact (follows_modify (f := Compaction.pin name) fun _ => rfl).bind fun _ => follows_pure _

theorem follows_inlineEntry {settle : Rule → Compaction.Step Rule} {settle' : Rule → Step Rule}
    (hsettle : ∀ r, Follows shown (settle r) (settle' r)) (name : String) (tag : Option String) :
    Follows shown (Compaction.inlineEntry settle name tag)
      (Compaction.inlineEntryM (tell shown) settle' name tag) := by
  refine follows_get.bind fun s => ?_
  cases s.repository.get? name with
  | none => exact follows_throw _ _
  | some body =>
    refine (follows_modify (f := Compaction.takeOut name) fun _ => rfl).bind fun _ => ?_
    refine (hsettle body).bind fun body' => follows_get.bind fun s' => .ite ?_ ?_
    · refine (follows_modify (f := Compaction.putBack name body') fun _ => rfl).bind fun _ => ?_
      exact follows_pure _
    · exact (follows_recordM name).bind fun _ => follows_pure _

theorem follows_expand (depth : Nat) (active : List String) (target : Include)
    (tag : Option String) :
    Follows shown (Compaction.expand counts depth active target tag)
      (Compaction.expandM (tell shown) counts depth active target tag) := by
  induction depth generalizing active target tag with
  | zero => exact follows_replace (fun _ _ => follows_throw _ _) target tag
  | succ depth ih =>
    refine follows_replace (fun name tag => follows_inlineEntry ?_ name tag) target tag
    exact follows_mapIncludesM (ih (name :: active))

theorem follows_settleEntry (depth : Nat) (name : String) :
    Follows shown (Compaction.settleEntry counts depth name)
      (Compaction.settleEntryM (tell shown) counts depth name) := by
  refine follows_get.bind fun s => ?_
  cases s.repository.get? name with
  | none => exact follows_pure ()
  | some body =>
    refine (follows_modify (f := Compaction.takeOut name) fun _ => rfl).bind fun _ => ?_
    refine (follows_mapIncludesM (follows_expand depth [name]) body).bind fun body' => ?_
    exact follows_modify (f := Compaction.putBack name body') fun _ => rfl

theorem follows_pass (patterns : List Rule) (repository : Repository) :
    Follows shown (Compaction.pass counts patterns repository)
      (Compaction.passM (tell shown) counts patterns repository) := by
  refine (follows_mapIncludesListM (follows_expand repository.size []) patterns).bind fun _ => ?_
  exact (Follows.forM (follows_settleEntry repository.size) _).bind fun _ => follows_pure _

end Following

section Compacting

variable {shown : Level} {counts : UseCounts} {patterns : List Rule} {repository : Repository}
  {c : Compaction} {log : List Event}

theorem run_ofCountsM (h : Compaction.ofCounts counts patterns repository = .ok c) :
    (Compaction.ofCountsM (tell shown) counts patterns repository).run log =
      .ok c (log ++ Event.upTo shown (c.inlined.map .inlinedRule) ++
        Event.upTo shown
          [.finishedCompaction c.inlined.length c.pruned.length c.repository.size]) := by
  unfold Compaction.ofCounts Compaction.ofCountsM at h
  cases hrun : (Compaction.pass counts patterns repository).run { repository } with
  | error e =>
    rw [hrun] at h
    cases h
  | ok p =>
    rw [hrun] at h
    cases h
    have hstart : log ++ inlinedLines shown { repository } = log := append_upTo_nil shown log
    have hpass : ((Compaction.passM (tell shown) counts patterns repository).run
        { repository }).run log = .ok p (log ++ inlinedLines shown p.2) := by
      have hfollows : Follows shown (Compaction.pass counts patterns repository) _ :=
        follows_pass patterns repository
      have hrest := hfollows log { repository } p.1 p.2 hrun
      rwa [hstart] at hrest
    unfold Compaction.ofCountsM
    rw [run_bind_log hpass]
    rfl

end Compacting

end Logging

open Logging

namespace Grammar

variable {g : Grammar} {deny : FindingSet} {counts : UseCounts} {c : Compaction}

theorem events_of_countUses_error {e : GrammarError} (deny : FindingSet) (hcheck : g.check = .ok ())
    (hcount : g.repository.countUses g.patterns = .error e) :
    (g.run deny).events = countedIncludes .empty (g.repository.walk g.patterns).names := by
  unfold run
  simp only [hcheck, hcount]
  rfl

/-- The events of a run whose count succeeds, in their order. -/
theorem events_of_countUses (deny : FindingSet) (hcheck : g.check = .ok ())
    (hcount : g.repository.countUses g.patterns = .ok counts)
    (hc : Compaction.ofCounts counts g.patterns g.repository = .ok c) :
    (g.run deny).events =
      countedIncludes .empty (g.repository.walk g.patterns).names ++
        [.countedReferences counts.size g.repository.size] ++ c.inlined.map .inlinedRule ++
        [.finishedCompaction c.inlined.length c.pruned.length c.repository.size] ++
        (Finding.sort c.findings).map .warning := by
  unfold run
  simp only [hcheck, hcount, Run.afterCount, hc, List.append_assoc, List.cons_append,
    List.nil_append]
  rfl

/-- The writing run comes to the same end, and its log is that of the run at the level shown. -/
theorem run_logged (shown : Level) (g : Grammar) (deny : FindingSet) (log : List Event) :
    (g.logged shown deny).run log =
      ended (log ++ Event.upTo shown (g.run deny).events) (g.run deny).result := by
  cases hcheck : g.check with
  | error e =>
    unfold logged run
    simp only [hcheck, append_upTo_nil]
    rfl
  | ok u =>
    have hcounting : (count shown g.repository [] .empty g.patterns).run log =
        ended (log ++ Event.upTo shown
            (countedIncludes .empty (g.repository.walk g.patterns).names))
          (g.repository.countUses g.patterns) := run_count [] g.patterns .empty log
    cases hcount : g.repository.countUses g.patterns with
    | error e =>
      rw [hcount] at hcounting
      have hresult := (run_of_countUses_error deny hcheck hcount).2
      rw [events_of_countUses_error deny hcheck hcount, hresult]
      unfold logged
      rw [hcheck]
      exact run_bind_error hcounting _
    | ok counts =>
      obtain ⟨c, hc⟩ := exists_compaction hcount
      rw [hcount] at hcounting
      rw [events_of_countUses deny hcheck hcount hc]
      simp only [upTo_append, ← List.append_assoc]
      unfold logged run
      simp only [hcheck, hcount, Run.afterCount, hc]
      rw [run_bind_log hcounting, run_bind_log (run_tell _), run_bind_log (run_ofCountsM hc),
        run_bind_log (run_forM_tell _ _)]
      split <;> rfl

end Grammar

end TextMate
