import TextMate.Proofs.Counting

/-! What inlining the names used once makes of a rule, whatever the order of the work. -/
namespace TextMate.Repository

/-- The names at the end of a chain of includes through a given number of rule lists. -/
inductive ReachableIn (repository : Repository) (patterns : List Rule) : Nat → String → Prop
  | pattern {name : String} (h : name ∈ Rule.includesList patterns) :
    ReachableIn repository patterns 1 name
  | body {steps : Nat} {user name : String} {body : Rule}
    (hu : ReachableIn repository patterns steps user) (hb : repository.get? user = some body)
    (h : name ∈ body.includes) : ReachableIn repository patterns (steps + 1) name

/-- Zero for a name that is not reachable. -/
noncomputable def distance (repository : Repository) (patterns : List Rule) (name : String) : Nat :=
  sInf {steps | repository.ReachableIn patterns steps name}

/-- The inner name is used once, and the body of the outer name includes it. -/
def Nested (repository : Repository) (counts : UseCounts) (inner outer : String) : Prop :=
  counts.get inner = 1 ∧ ∃ body, repository.get? outer = some body ∧ inner ∈ body.includes

variable {repository : Repository} {patterns : List Rule} {counts : UseCounts}

theorem exists_reachableIn {name : String} (h : repository.Reachable patterns name) :
    ∃ steps, repository.ReachableIn patterns steps name := by
  induction h with
  | pattern hp => exact ⟨1, .pattern hp⟩
  | body hu hb hn ih =>
    obtain ⟨steps, hs⟩ := ih
    exact ⟨steps + 1, .body hs hb hn⟩

theorem ReachableIn.reachable {steps : Nat} {name : String}
    (h : repository.ReachableIn patterns steps name) : repository.Reachable patterns name := by
  induction h with
  | pattern hp => exact .pattern hp
  | body hu hb hn ih => exact .body ih hb hn

theorem distance_le {steps : Nat} {name : String}
    (h : repository.ReachableIn patterns steps name) : repository.distance patterns name ≤ steps :=
  Nat.sInf_le h

theorem reachableIn_distance {name : String} (h : repository.Reachable patterns name) :
    repository.ReachableIn patterns (repository.distance patterns name) name :=
  Nat.sInf_mem (exists_reachableIn h)

theorem distance_eq_zero {name : String} (h : ¬ repository.Reachable patterns name) :
    repository.distance patterns name = 0 := by
  have hempty : {steps | repository.ReachableIn patterns steps name} = ∅ :=
    Set.eq_empty_of_forall_notMem fun steps hs => h (ReachableIn.reachable hs)
  rw [distance, hempty, Nat.sInf_empty]

/-- The only way to a name used once leads through the body that includes it. -/
theorem Counted.distance_lt (h : repository.Counted patterns counts) {inner outer : String}
    (hn : repository.Nested counts inner outer) :
    repository.distance patterns outer < repository.distance patterns inner := by
  obtain ⟨hone, body, hb, hi⟩ := hn
  have hget := h.get_eq inner
  have hinner : repository.Reachable patterns inner := (h.pos_iff inner).1 (by omega)
  have hmin := reachableIn_distance hinner
  have hpos : 0 < repository.distance patterns inner := by
    generalize repository.distance patterns inner = d at hmin
    cases hmin with
    | pattern => omega
    | body => omega
  by_cases ho : repository.Reachable patterns outer
  · have huse := List.count_pos_iff.2 hi
    have hle := count_le_usesIn (0 < counts.get ·) inner ((h.pos_iff outer).2 ho) hb
    generalize hd : repository.distance patterns inner = d at hmin
    cases hmin with
    | pattern hp =>
      have := List.count_pos_iff.2 hp
      omega
    | @body steps user _ body' hu hb' hi' =>
      have heq : outer = user := by
        by_contra hne
        have := two_le_usesIn (0 < counts.get ·) inner hne ((h.pos_iff outer).2 ho)
          ((h.pos_iff user).2 hu.reachable) hb hb' hi hi'
        omega
      have := distance_le (heq ▸ hu)
      omega
  · rw [distance_eq_zero ho]
    exact hpos

/-- Bodies of names used once do not contain each other in a circle. -/
theorem Counted.wellFounded_nested (h : repository.Counted patterns counts) :
    WellFounded (repository.Nested counts) := by
  -- Distances grow inwards, and no name with an entry is further away than all of them together.
  have hbound : ∀ inner outer, repository.Nested counts inner outer →
      repository.distance patterns inner ≤
        repository.total fun name _ => repository.distance patterns name := by
    intro inner outer hn
    obtain ⟨body, hb⟩ := h.entry inner (by have := hn.1; omega)
    exact Table.le_total (fun name _ => repository.distance patterns name) hb
  refine Subrelation.wf (r := InvImage (· < ·) fun name =>
    (repository.total fun name _ => repository.distance patterns name) -
      repository.distance patterns name) ?_ (InvImage.wf _ Nat.lt_wfRel.wf)
  intro inner outer hn
  have := h.distance_lt hn
  have := hbound inner outer hn
  simp only [InvImage]
  omega

/--
`inlined` puts the inlined body of every name used once in the place of its include and leaves all
else as it is.
-/
structure Inlines (repository : Repository) (counts : UseCounts) (inlined : Rule → Rule) :
    Prop where
  once : ∀ name tag body, counts.get name = 1 → repository.get? name = some body →
    inlined (.reference (.entry name) tag) = inlined body
  kept : ∀ name tag, counts.get name ≠ 1 →
    inlined (.reference (.entry name) tag) = .reference (.entry name) tag
  inside : ∀ r : Rule, r.reference? = none → inlined r = r.mapChildren inlined

/-- Every name used once has an entry, and following such names inwards comes to an end. -/
structure Inlinable (repository : Repository) (counts : UseCounts) : Prop where
  entry : ∀ name, counts.get name = 1 → ∃ body, repository.get? name = some body
  wellFounded : WellFounded (repository.Nested counts)

theorem Counted.inlinable (h : repository.Counted patterns counts) :
    repository.Inlinable counts where
  entry name hn := h.entry name (by omega)
  wellFounded := h.wellFounded_nested

/-- What passes from children to rules and from bodies used once to their includes holds always. -/
theorem Inlinable.induction (h : repository.Inlinable counts) {P : Rule → Prop}
    (once : ∀ name tag body, counts.get name = 1 → repository.get? name = some body → P body →
      P (.reference (.entry name) tag))
    (kept : ∀ name tag, counts.get name ≠ 1 → P (.reference (.entry name) tag))
    (inside : ∀ r : Rule, r.reference? = none → (∀ c ∈ r.children, P c) → P r) (r : Rule) :
    P r := by
  have hinner : ∀ r : Rule, (∀ name ∈ r.includes, counts.get name = 1 → ∀ body,
      repository.get? name = some body → P body) → P r := by
    intro r
    induction r using Rule.induction_children with
    | step r ih =>
      intro hr
      cases href : r.reference? with
      | none =>
        refine inside r href fun c hc => ih c hc fun name hn => hr name ?_
        exact Rule.includes_subset_of_mem_children hc hn
      | some name =>
        obtain ⟨tag, rfl⟩ := Rule.eq_of_reference? href
        by_cases hone : counts.get name = 1
        · obtain ⟨body, hb⟩ := h.entry name hone
          exact once name tag body hone hb (hr name List.mem_cons_self hone body hb)
        · exact kept name tag hone
  have hbody : ∀ name body, repository.get? name = some body → P body := by
    intro name
    induction name using h.wellFounded.induction with
    | h outer ih =>
      intro body hb
      exact hinner body fun inner hi hone => ih inner ⟨hone, body, hb, hi⟩
  exact hinner r fun name _ _ => hbody name

section Inlines

variable {inlined : Rule → Rule}

theorem Inlines.external (h : repository.Inlines counts inlined) (text : String)
    (tag : Option String) :
    inlined (.reference (.external text) tag) = .reference (.external text) tag :=
  h.inside _ rfl

theorem Inlines.eq_mapIncludes (h : repository.Inlines counts inlined) (r : Rule) :
    inlined r = r.mapIncludes fun target tag => inlined (.reference target tag) := by
  exact Rule.eq_mapIncludes (fun r hr => h.inside r (Rule.reference?_eq_none hr)) r

theorem Inlines.unique (h : repository.Inlines counts inlined) (hi : repository.Inlinable counts)
    {inlined' : Rule → Rule} (h' : repository.Inlines counts inlined') : inlined = inlined' := by
  funext r
  induction r using hi.induction with
  | once name tag body hone hb ih =>
    rw [h.once name tag body hone hb, ih, h'.once name tag body hone hb]
  | kept name tag hone => rw [h.kept name tag hone, h'.kept name tag hone]
  | inside r href ih => rw [h.inside r href, Rule.mapChildren_congr ih, h'.inside r href]

/-- No name used once is included any more. -/
theorem Inlines.get_ne_one (h : repository.Inlines counts inlined)
    (hi : repository.Inlinable counts) (r : Rule) :
    ∀ name ∈ (inlined r).includes, counts.get name ≠ 1 := by
  induction r using hi.induction with
  | once name tag body hone hb ih => rwa [h.once name tag body hone hb]
  | kept name tag hone =>
    rw [h.kept name tag hone]
    intro n hn
    rwa [List.mem_singleton.1 hn]
  | inside r href ih =>
    rw [h.inside r href, Rule.includes_mapChildren _ href]
    intro name hn
    obtain ⟨c, hc, hn⟩ := List.mem_flatMap.1 hn
    exact ih c hc name hn

/-- A rule without includes of names used once stays as it is. -/
theorem Inlines.eq_self (h : repository.Inlines counts inlined) {r : Rule}
    (hr : ∀ name ∈ r.includes, counts.get name ≠ 1) : inlined r = r := by
  induction r using Rule.induction_children with
  | step r ih =>
    cases href : r.reference? with
    | none =>
      rw [h.inside r href]
      refine (Rule.mapChildren_congr fun c hc => ih c hc fun name hn => hr name ?_).trans
        (Rule.mapChildren_id r)
      exact Rule.includes_subset_of_mem_children hc hn
    | some name =>
      obtain ⟨tag, rfl⟩ := Rule.eq_of_reference? href
      exact h.kept name tag (hr name List.mem_cons_self)

theorem Inlines.idem (h : repository.Inlines counts inlined) (hi : repository.Inlinable counts)
    (r : Rule) : inlined (inlined r) = inlined r :=
  h.eq_self (h.get_ne_one hi r)

end Inlines

/-- What stands for an include, given what stands for the names used once. -/
def inlineWith (counts : UseCounts) (bodies : String → Rule) : Include → Option String → Rule
  | .external text, tag => .reference (.external text) tag
  | .entry name, tag =>
    if counts.get name = 1 then bodies name else .reference (.entry name) tag

open Classical in
/-- The body of an entry with the given rules for the names nested in it. -/
noncomputable def nestBodies (repository : Repository) (counts : UseCounts) (outer : String)
    (bodies : ∀ inner, repository.Nested counts inner outer → Rule) : Rule :=
  ((repository.get? outer).getD default).mapIncludes <| inlineWith counts fun inner =>
    if h : repository.Nested counts inner outer then bodies inner h else default

theorem exists_bodies (h : WellFounded (repository.Nested counts)) :
    ∃ bodies : String → Rule, ∀ name body, repository.get? name = some body →
      bodies name = body.mapIncludes (inlineWith counts bodies) := by
  refine ⟨h.fix (repository.nestBodies counts), fun name body hb => ?_⟩
  rw [h.fix_eq]
  simp only [nestBodies, hb, Option.getD_some]
  refine Rule.mapIncludes_congr fun target tag ht => ?_
  cases target with
  | external text => rfl
  | entry inner =>
    simp only [inlineWith]
    split
    · rename_i hone
      rw [dif_pos ⟨hone, body, hb, ht List.mem_cons_self⟩]
    · rfl

theorem Inlinable.exists_inlines (h : repository.Inlinable counts) :
    ∃ inlined, repository.Inlines counts inlined := by
  obtain ⟨bodies, hbodies⟩ := exists_bodies h.wellFounded
  refine ⟨Rule.mapIncludes (inlineWith counts bodies), ?_, ?_, ?_⟩
  · intro name tag body hone hb
    rw [Rule.mapIncludes_reference, inlineWith, if_pos hone, hbodies name body hb]
  · intro name tag hone
    rw [Rule.mapIncludes_reference, inlineWith, if_neg hone]
  · intro r href
    cases r with
    | reference target tag =>
      cases target with
      | entry name => cases href
      | external text => rfl
    | leaf r => exact Rule.mapIncludes_eq_mapChildren _ nofun
    | region r => exact Rule.mapIncludes_eq_mapChildren _ nofun
    | group r => exact Rule.mapIncludes_eq_mapChildren _ nofun

end TextMate.Repository
