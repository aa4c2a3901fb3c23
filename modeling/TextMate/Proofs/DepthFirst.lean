import TextMate.Proofs.Counting

/-!
The walk as a recursion over rules and bodies, which has no list of pending rules: a rule is walked
to its end before the rule behind it.
-/
namespace TextMate

namespace Walk

/-- The second walk begins where the first one has ended. -/
def followedBy (w w' : Walk) : Walk := ⟨w.names ++ w'.names, w'.missing⟩

/-- Takes a walk through the patterns of one capture after the other. -/
def throughCaptures (visit : Walk → Rule → Walk) (w : Walk) (captures : List (Capture Rule)) :
    Walk :=
  captures.foldl (fun w c => c.patterns.foldl visit w) w

section Children

variable (visit : Walk → Rule → Walk) (w : Walk)

theorem foldl_captures (captures : List (Capture Rule)) :
    (captures.map (·.patterns)).flatten.foldl visit w = w.throughCaptures visit captures := by
  rw [List.foldl_flatten, List.foldl_map]
  rfl

theorem foldl_children_leaf (r : Leaf Rule) :
    (Rule.leaf r).children.foldl visit w = w.throughCaptures visit r.captures := by
  rw [Rule.children, Rule.innerLists, foldl_captures]

theorem foldl_children_region (r : Region Rule) :
    (Rule.region r).children.foldl visit w =
      r.patterns.foldl visit
        (((w.throughCaptures visit r.openingCaptures).throughCaptures visit
          r.closingCaptures).throughCaptures visit r.captures) := by
  simp only [Rule.children, Rule.innerLists, List.flatten_append, List.foldl_append,
    foldl_captures, List.flatten_singleton]

theorem foldl_children_group (r : Group Rule) :
    (Rule.group r).children.foldl visit w = r.patterns.foldl visit w := by
  rw [Rule.children, Rule.innerLists, List.flatten_singleton]

end Children

end Walk

namespace Repository

/--
`visit` takes a walk through a rule. The body of an entry is walked at the first include of its
name, before anything behind that include. A walk that has met a name without an entry has stopped.
-/
structure DepthFirst (repository : Repository) (visit : Walk → Rule → Walk) : Prop where
  stopped : ∀ w r, w.missing ≠ none → visit w r = w
  external : ∀ w text tag, visit w (.reference (.external text) tag) = w
  again : ∀ names name tag, name ∈ names →
    visit ⟨names, none⟩ (.reference (.entry name) tag) = ⟨names ++ [name], none⟩
  missing : ∀ names name tag, name ∉ names → repository.get? name = none →
    visit ⟨names, none⟩ (.reference (.entry name) tag) = ⟨names ++ [name], some name⟩
  first : ∀ names name tag body, name ∉ names → repository.get? name = some body →
    visit ⟨names, none⟩ (.reference (.entry name) tag) = visit ⟨names ++ [name], none⟩ body
  leaf : ∀ w r, visit w (.leaf r) = w.throughCaptures visit r.captures
  region : ∀ w r, visit w (.region r) =
    r.patterns.foldl visit
      (((w.throughCaptures visit r.openingCaptures).throughCaptures visit
        r.closingCaptures).throughCaptures visit r.captures)
  group : ∀ w r, visit w (.group r) = r.patterns.foldl visit w

variable {repository other : Repository} {seen : List String} {pending : List Rule}

section Recursion

variable {visit visit' : Walk → Rule → Walk}

theorem DepthFirst.inside (h : repository.DepthFirst visit) {r : Rule} (href : r.reference? = none)
    (w : Walk) : visit w r = r.children.foldl visit w := by
  cases r with
  | reference target tag =>
    cases target with
    | entry name => cases href
    | external text => exact h.external w text tag
  | leaf r => rw [h.leaf, Walk.foldl_children_leaf]
  | region r => rw [h.region, Walk.foldl_children_region]
  | group r => rw [h.group, Walk.foldl_children_group]

theorem DepthFirst.foldl_stopped (h : repository.DepthFirst visit) {w : Walk}
    (hw : w.missing ≠ none) (rs : List Rule) : rs.foldl visit w = w := by
  induction rs with
  | nil => rfl
  | cons r rest ih => rw [List.foldl_cons, h.stopped w r hw, ih]

/--
The pending rules are those that the recursion would come back to, frame after frame, and the names
seen are those that it has met.
-/
theorem DepthFirst.foldl_eq (h : repository.DepthFirst visit) {names : List String}
    (hseen : ∀ n, n ∈ seen ↔ n ∈ names) :
    pending.foldl visit ⟨names, none⟩ =
      Walk.followedBy ⟨names, none⟩ (repository.walkFrom seen pending) := by
  induction seen, pending using walkFrom_induction repository generalizing names with
  | nil seen =>
    rw [walkFrom, Walk.followedBy, List.append_nil]
    rfl
  | inside seen r pending href ih =>
    rw [List.foldl_cons, h.inside href, ← List.foldl_append, walkFrom_inside href]
    exact ih hseen
  | again seen name tag pending hs ih =>
    have hmet : ∀ n, n ∈ seen ↔ n ∈ names ++ [name] := by
      intro n
      rw [List.mem_append, List.mem_singleton, ← hseen]
      constructor
      · exact .inl
      · rintro (hn | rfl)
        · exact hn
        · exact hs
    rw [List.foldl_cons, h.again names name tag ((hseen name).1 hs), ih hmet, walkFrom_seen hs]
    simp only [Walk.followedBy, Walk.meet, List.append_assoc, List.singleton_append]
  | missing seen name tag pending hs hb =>
    have hstopped : (Walk.mk (names ++ [name]) (some name)).missing ≠ none :=
      Option.some_ne_none name
    rw [List.foldl_cons, h.missing names name tag (mt (hseen name).2 hs) hb,
      h.foldl_stopped hstopped, walkFrom_missing hs hb]
    rfl
  | enter seen name tag pending body hs hb ih =>
    have hmet : ∀ n, n ∈ name :: seen ↔ n ∈ names ++ [name] := by
      intro n
      rw [List.mem_cons, List.mem_append, List.mem_singleton, ← hseen]
      exact Or.comm
    have hbody := ih hmet
    rw [List.foldl_cons] at hbody
    rw [List.foldl_cons, h.first names name tag body (mt (hseen name).2 hs) hb, hbody,
      walkFrom_enter hs hb]
    simp only [Walk.followedBy, Walk.meet, List.append_assoc, List.singleton_append]

/-- There is only one way to walk a rule to its end first. -/
theorem DepthFirst.unique (h : repository.DepthFirst visit) (h' : repository.DepthFirst visit') :
    visit' = visit := by
  funext w r
  obtain ⟨names, missing⟩ := w
  cases missing with
  | none =>
    have hself : ∀ n, n ∈ names ↔ n ∈ names := fun _ => Iff.rfl
    calc visit' ⟨names, none⟩ r = [r].foldl visit' ⟨names, none⟩ := rfl
      _ = Walk.followedBy ⟨names, none⟩ (repository.walkFrom names [r]) := h'.foldl_eq hself
      _ = [r].foldl visit ⟨names, none⟩ := (h.foldl_eq hself).symm
      _ = visit ⟨names, none⟩ r := rfl
  | some name =>
    have hstopped : (Walk.mk names (some name)).missing ≠ none := Option.some_ne_none name
    rw [h.stopped _ r hstopped, h'.stopped _ r hstopped]

end Recursion

section Existence

/-- Which names have been seen matters, and not in which order. -/
theorem walkFrom_congr_seen {seen' : List String} (hseen : ∀ n, n ∈ seen ↔ n ∈ seen') :
    repository.walkFrom seen' pending = repository.walkFrom seen pending := by
  induction seen, pending using walkFrom_induction repository generalizing seen' with
  | nil seen => rw [walkFrom, walkFrom]
  | inside seen r pending href ih => rw [walkFrom_inside href, walkFrom_inside href, ih hseen]
  | again seen name tag pending hs ih =>
    rw [walkFrom_seen hs, walkFrom_seen ((hseen name).1 hs), ih hseen]
  | missing seen name tag pending hs hb =>
    rw [walkFrom_missing hs hb, walkFrom_missing (mt (hseen name).2 hs) hb]
  | enter seen name tag pending body hs hb ih =>
    have hcons : ∀ n, n ∈ name :: seen ↔ n ∈ name :: seen' := by
      intro n
      rw [List.mem_cons, List.mem_cons, hseen]
    rw [walkFrom_enter hs hb, walkFrom_enter (mt (hseen name).2 hs) hb, ih hcons]

/-- What is behind some rules is walked after them, if their walk has not stopped. -/
theorem walkFrom_append (pending rest : List Rule) :
    repository.walkFrom seen (pending ++ rest) =
      if (repository.walkFrom seen pending).missing = none then
        (repository.walkFrom seen pending).followedBy
          (repository.walkFrom (seen ++ (repository.walkFrom seen pending).names) rest)
      else repository.walkFrom seen pending := by
  induction seen, pending using walkFrom_induction repository with
  | nil seen =>
    rw [walkFrom, if_pos rfl, List.append_nil]
    rfl
  | inside seen r pending href ih =>
    rw [List.cons_append, walkFrom_inside href, ← List.append_assoc, ih, walkFrom_inside href]
  | again seen name tag pending hs ih =>
    rw [List.cons_append, walkFrom_seen hs, walkFrom_seen hs, ih]
    have hmet : ∀ n, n ∈ seen ++ (repository.walkFrom seen pending).names ↔
        n ∈ seen ++ ((repository.walkFrom seen pending).meet name).names := by
      intro n
      simp only [Walk.meet, List.mem_append, List.mem_cons]
      constructor
      · rintro (hn | hn)
        · exact .inl hn
        · exact .inr (.inr hn)
      · rintro (hn | rfl | hn)
        · exact .inl hn
        · exact .inl hs
        · exact .inr hn
    rw [walkFrom_congr_seen hmet, apply_ite (Walk.meet · name)]
    rfl
  | missing seen name tag pending hs hb =>
    rw [List.cons_append, walkFrom_missing hs hb, walkFrom_missing hs hb]
    rfl
  | enter seen name tag pending body hs hb ih =>
    rw [List.cons_append, walkFrom_enter hs hb, walkFrom_enter hs hb]
    rw [List.cons_append] at ih
    rw [ih]
    have hmet : ∀ n,
        n ∈ name :: seen ++ (repository.walkFrom (name :: seen) (body :: pending)).names ↔
        n ∈ seen ++ ((repository.walkFrom (name :: seen) (body :: pending)).meet name).names := by
      intro n
      simp only [Walk.meet, List.mem_append, List.mem_cons]
      tauto
    rw [walkFrom_congr_seen hmet, apply_ite (Walk.meet · name)]
    rfl

/-- The walk through a rule, if the walk before it has not stopped. -/
def visit (repository : Repository) (w : Walk) (r : Rule) : Walk :=
  if w.missing = none then w.followedBy (repository.walkFrom w.names [r]) else w

theorem foldl_visit (w : Walk) (rs : List Rule) :
    rs.foldl repository.visit w =
      if w.missing = none then w.followedBy (repository.walkFrom w.names rs) else w := by
  induction rs generalizing w with
  | nil =>
    rw [walkFrom]
    split
    · rename_i hnone
      rw [Walk.followedBy, List.append_nil, ← hnone]
      rfl
    · rfl
  | cons r rest ih =>
    rw [List.foldl_cons, ih, visit]
    by_cases hw : w.missing = none
    · have hsplit : repository.walkFrom w.names (r :: rest) = _ := walkFrom_append [r] rest
      rw [if_pos hw, if_pos hw, hsplit]
      by_cases hr : (repository.walkFrom w.names [r]).missing = none
      · rw [if_pos hr]
        simp only [Walk.followedBy, hr, if_true, List.append_assoc]
      · rw [if_neg hr]
        exact if_neg hr
    · rw [if_neg hw, if_neg hw, if_neg hw]

theorem visit_inside {r : Rule} (href : r.reference? = none) (w : Walk) :
    repository.visit w r = r.children.foldl repository.visit w := by
  rw [foldl_visit, visit, walkFrom_inside href, List.append_nil]

theorem visit_include (names : List String) (name : String) (tag : Option String) :
    repository.visit ⟨names, none⟩ (.reference (.entry name) tag) =
      Walk.followedBy ⟨names, none⟩ (repository.walkFrom names [.reference (.entry name) tag]) :=
  if_pos rfl

theorem depthFirst_visit (repository : Repository) : repository.DepthFirst repository.visit where
  stopped w r hw := if_neg hw
  external w text tag := visit_inside rfl w
  again names name tag hn := by
    rw [visit_include, walkFrom_seen hn, walkFrom]
    rfl
  missing names name tag hn hb := by
    rw [visit_include, walkFrom_missing hn hb]
    rfl
  first names name tag body hn hb := by
    have hmet : ∀ n, n ∈ names ++ [name] ↔ n ∈ name :: names := by
      intro n
      rw [List.mem_append, List.mem_singleton, List.mem_cons]
      exact Or.comm
    have hbody : repository.visit ⟨names ++ [name], none⟩ body =
        Walk.followedBy ⟨names ++ [name], none⟩ (repository.walkFrom (names ++ [name]) [body]) :=
      if_pos rfl
    rw [visit_include, walkFrom_enter hn hb, hbody, walkFrom_congr_seen hmet]
    simp only [Walk.followedBy, Walk.meet, List.append_assoc, List.singleton_append]
  leaf w r := by rw [visit_inside rfl, Walk.foldl_children_leaf]
  region w r := by rw [visit_inside rfl, Walk.foldl_children_region]
  group w r := by rw [visit_inside rfl, Walk.foldl_children_group]

end Existence

section Stops

variable {patterns : List Rule} {name : String}

/-- Every name met has an entry, but for the last one of a walk that has stopped. -/
inductive StopsAtMissing (repository : Repository) : Walk → Prop
  | complete {names : List String} (h : ∀ n ∈ names, n ∈ repository.keys) :
    StopsAtMissing repository ⟨names, none⟩
  | stopped {before : List String} {name : String} (h : ∀ n ∈ before, n ∈ repository.keys)
    (hname : name ∉ repository.keys) : StopsAtMissing repository ⟨before ++ [name], some name⟩

theorem StopsAtMissing.meet {w : Walk} (h : repository.StopsAtMissing w)
    (hname : name ∈ repository.keys) : repository.StopsAtMissing (w.meet name) := by
  cases h with
  | complete h => exact .complete (List.forall_mem_cons.2 ⟨hname, h⟩)
  | @stopped before last h hlast =>
    have hbefore : ∀ n ∈ name :: before, n ∈ repository.keys := List.forall_mem_cons.2 ⟨hname, h⟩
    have hstopped := StopsAtMissing.stopped hbefore hlast
    exact hstopped

theorem stopsAtMissing_walkFrom (hseen : ∀ n ∈ seen, n ∈ repository.keys) :
    repository.StopsAtMissing (repository.walkFrom seen pending) := by
  induction seen, pending using walkFrom_induction repository with
  | nil seen =>
    rw [walkFrom]
    exact .complete (List.forall_mem_nil _)
  | inside seen r pending href ih =>
    rw [walkFrom_inside href]
    exact ih hseen
  | again seen name tag pending hs ih =>
    rw [walkFrom_seen hs]
    exact (ih hseen).meet (hseen name hs)
  | missing seen name tag pending hs hb =>
    have habsent : name ∉ repository.keys := by
      rw [Table.mem_keys_iff, hb]
      exact Bool.false_ne_true
    have hstopped := StopsAtMissing.stopped (List.forall_mem_nil (· ∈ repository.keys)) habsent
    rw [walkFrom_missing hs hb]
    exact hstopped
  | enter seen name tag pending body hs hb ih =>
    have hkey := Table.mem_keys_of_get? hb
    rw [walkFrom_enter hs hb]
    exact (ih (List.forall_mem_cons.2 ⟨hkey, hseen⟩)).meet hkey

/-- The count fails at the first name without an entry, in the order of the walk. -/
theorem countUses_eq_unresolved_iff :
    repository.countUses patterns = .error (.unresolved name) ↔
      ∃ before, (repository.walk patterns).names = before ++ [name] ∧
        (∀ n ∈ before, n ∈ repository.keys) ∧ name ∉ repository.keys := by
  have hstops : repository.StopsAtMissing (repository.walk patterns) :=
    stopsAtMissing_walkFrom nofun
  unfold countUses
  generalize repository.walk patterns = w at hstops
  cases hstops with
  | @complete names h =>
    constructor
    · nofun
    · rintro ⟨before, rfl, -, hname⟩
      exact absurd (h name (List.mem_append_right before List.mem_cons_self)) hname
  | @stopped before last h hlast =>
    constructor
    · intro herror
      cases herror
      exact ⟨before, rfl, h, hlast⟩
    · rintro ⟨before', heq, -⟩
      obtain ⟨-, hname⟩ := List.append_inj' heq rfl
      rw [List.singleton_inj.1 hname]

end Stops

/--
The walk is the depth-first recursion, which is only one: it meets the names in the same order, and
it stops at the first of them that has no entry, which is the name that the count reports. What is
in the repository under names that have not been met so far does not matter.
-/
theorem walk_depthFirst (repository : Repository) :
    ∃ visit, repository.DepthFirst visit ∧
      (∀ visit', repository.DepthFirst visit' → visit' = visit) ∧
      ∀ patterns,
        repository.walk patterns = patterns.foldl visit ⟨[], none⟩ ∧
        (∀ counts, repository.countUses patterns = .ok counts ↔
          ∃ names, patterns.foldl visit ⟨[], none⟩ = ⟨names, none⟩ ∧ counts = .ofNames names) ∧
        (∀ name, repository.countUses patterns = .error (.unresolved name) ↔
          ∃ before, (patterns.foldl visit ⟨[], none⟩).names = before ++ [name] ∧
            (∀ n ∈ before, n ∈ repository.keys) ∧ name ∉ repository.keys) ∧
        ∀ other : Repository,
          (∀ n ∈ (patterns.foldl visit ⟨[], none⟩).names, other.get? n = repository.get? n) →
          other.walk patterns = repository.walk patterns ∧
            other.countUses patterns = repository.countUses patterns := by
  refine ⟨repository.visit, depthFirst_visit repository,
    fun visit' h' => (depthFirst_visit repository).unique h', fun patterns => ?_⟩
  have hwalk : patterns.foldl repository.visit ⟨[], none⟩ = repository.walk patterns :=
    (depthFirst_visit repository).foldl_eq fun n => Iff.rfl
  rw [hwalk]
  refine ⟨rfl, fun counts => countUses_eq_ok_iff, fun name => countUses_eq_unresolved_iff,
    fun other hagree => ?_⟩
  have hsame : other.walk patterns = repository.walk patterns := walkFrom_congr hagree
  refine ⟨hsame, ?_⟩
  unfold countUses
  rw [hsame]

/-- The body of the shared entry is walked at its first include only, before the second one. -/
example : Grammar.circular.repository.walk Grammar.circular.patterns =
    ⟨["term", "wrapped", "argument", "term", "term"], none⟩ := by cbv

end Repository

end TextMate
