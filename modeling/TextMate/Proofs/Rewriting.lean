import TextMate.Compaction
import TextMate.Proofs.Nodes

/-! What a pass that succeeds does, given any counts at all, as a derivation. -/
namespace TextMate.Compaction

/--
The rules before and after, and the states before and after, with one case for each branch of the
pass. The bodies that are under way are those of the active names.
-/
inductive Rewrites (counts : UseCounts) :
    List String → List Rule → State → List Rule → State → Prop
  | nil {active : List String} {s : State} : Rewrites counts active [] s [] s
  | inside {active : List String} {r r' : Rule} {rest rest' : List Rule} {s s₁ s₂ : State}
    (href : r.reference? = none) (hnode : r'.withoutChildren = r.withoutChildren)
    (hchildren : Rewrites counts active r.children s r'.children s₁)
    (hrest : Rewrites counts active rest s₁ rest' s₂) :
    Rewrites counts active (r :: rest) s (r' :: rest') s₂
  /-- An include of a name that is not used once stays. -/
  | kept {active : List String} {name : String} {tag : Option String} {rest rest' : List Rule}
    {s s₁ : State} (hone : counts.get name ≠ 1) (hrest : Rewrites counts active rest s rest' s₁) :
    Rewrites counts active (.reference (.entry name) tag :: rest) s
      (.reference (.entry name) tag :: rest') s₁
  /-- So does an include of a name inside its own body. -/
  | pinned {active : List String} {name : String} {tag : Option String} {rest rest' : List Rule}
    {s s₁ : State} (hone : counts.get name = 1) (hactive : name ∈ active)
    (hrest : Rewrites counts active rest (pin name s) rest' s₁) :
    Rewrites counts active (.reference (.entry name) tag :: rest) s
      (.reference (.entry name) tag :: rest') s₁
  /-- And so does the include through which that body was entered. -/
  | restored {active : List String} {name : String} {tag : Option String} {body body' : Rule}
    {rest rest' : List Rule} {s s₁ s₂ : State} (hone : counts.get name = 1)
    (hactive : name ∉ active) (hb : s.repository.get? name = some body)
    (hbody : Rewrites counts (name :: active) [body] (takeOut name s) [body'] s₁)
    (hpinned : name ∈ s₁.pinned)
    (hrest : Rewrites counts active rest (putBack name body' s₁) rest' s₂) :
    Rewrites counts active (.reference (.entry name) tag :: rest) s
      (.reference (.entry name) tag :: rest') s₂
  | inlined {active : List String} {name : String} {tag : Option String} {body body' : Rule}
    {rest rest' : List Rule} {s s₁ s₂ : State} (hone : counts.get name = 1)
    (hactive : name ∉ active) (hb : s.repository.get? name = some body)
    (hbody : Rewrites counts (name :: active) [body] (takeOut name s) [body'] s₁)
    (hpinned : name ∉ s₁.pinned)
    (hrest : Rewrites counts active rest { s₁ with inlined := s₁.inlined ++ [name] } rest' s₂) :
    Rewrites counts active (.reference (.entry name) tag :: rest) s (body' :: rest') s₂

/-- The names of entries that remain to be settled, with the states before and after. -/
inductive Visits (counts : UseCounts) : List String → State → State → Prop
  | nil {s : State} : Visits counts [] s s
  | gone {name : String} {rest : List String} {s s₁ : State}
    (hb : s.repository.get? name = none) (hrest : Visits counts rest s s₁) :
    Visits counts (name :: rest) s s₁
  | settled {name : String} {rest : List String} {body body' : Rule} {s s₁ s₂ : State}
    (hb : s.repository.get? name = some body)
    (hbody : Rewrites counts [name] [body] (takeOut name s) [body'] s₁)
    (hrest : Visits counts rest (putBack name body' s₁) s₂) :
    Visits counts (name :: rest) s s₂

/-- Every move of a pass keeps the condition, whatever names are active. -/
structure Invariant (counts : UseCounts) (I : List String → State → Prop) : Prop where
  pin : ∀ {active name s}, counts.get name = 1 → name ∈ active → I active s →
    I active (pin name s)
  takeOut : ∀ {active name body s}, s.repository.get? name = some body → I active s →
    I (name :: active) (takeOut name s)
  putBack : ∀ {active name s} body, I (name :: active) s → I active (putBack name body s)
  inline : ∀ {active name s}, counts.get name = 1 → I (name :: active) s →
    I active { s with inlined := s.inlined ++ [name] }

section Invariants

variable {counts : UseCounts} {I : List String → State → Prop} {active names : List String}
  {rs rs' : List Rule} {s s' : State}

theorem Rewrites.preserves (h : Rewrites counts active rs s rs' s') (hI : Invariant counts I)
    (hs : I active s) : I active s' := by
  induction h with
  | nil => exact hs
  | inside href hnode hchildren hrest ihchildren ihrest => exact ihrest (ihchildren hs)
  | kept hone hrest ihrest => exact ihrest hs
  | pinned hone hactive hrest ihrest => exact ihrest (hI.pin hone hactive hs)
  | restored hone hactive hb hbody hpinned hrest ihbody ihrest =>
    have hdone := ihbody (hI.takeOut hb hs)
    exact ihrest (hI.putBack _ hdone)
  | inlined hone hactive hb hbody hpinned hrest ihbody ihrest =>
    have hdone := ihbody (hI.takeOut hb hs)
    exact ihrest (hI.inline hone hdone)

theorem Visits.preserves (h : Visits counts names s s') (hI : Invariant counts I)
    (hs : I [] s) : I [] s' := by
  induction h with
  | nil => exact hs
  | gone hb hrest ih => exact ih hs
  | settled hb hbody hrest ih =>
    have hdone := hbody.preserves hI (hI.takeOut hb hs)
    exact ih (hI.putBack _ hdone)

end Invariants

section Runs

variable {counts : UseCounts} {active : List String} {name : String} {tag : Option String}
  {s s' : State}

theorem inlineEntry_eq_ok {settle : Rule → Step Rule} {r : Rule}
    (h : (inlineEntry settle name tag).run s = .ok (r, s')) :
    ∃ body body' s₁, s.repository.get? name = some body ∧
      (settle body).run (takeOut name s) = .ok (body', s₁) ∧
      (name ∈ s₁.pinned ∧ r = .reference (.entry name) tag ∧ s' = putBack name body' s₁ ∨
        name ∉ s₁.pinned ∧ r = body' ∧ s' = { s₁ with inlined := s₁.inlined ++ [name] }) := by
  unfold inlineEntry inlineEntryM at h
  rw [run_get_bind] at h
  cases hb : s.repository.get? name with
  | none =>
    rw [hb] at h
    cases h
  | some body =>
    simp only [hb] at h
    rw [run_modify_bind] at h
    obtain ⟨body', s₁, hsettle, h⟩ := run_bind_eq_ok h
    rw [run_get_bind] at h
    refine ⟨body, body', s₁, rfl, hsettle, ?_⟩
    by_cases hp : name ∈ s₁.pinned
    · rw [if_pos hp] at h
      cases h
      exact .inl ⟨hp, rfl, rfl⟩
    · rw [if_neg hp] at h
      cases h
      exact .inr ⟨hp, rfl, rfl⟩

theorem settleEntry_eq_ok {counts : UseCounts} {depth : Nat} {u : Unit}
    (h : (settleEntry counts depth name).run s = .ok (u, s')) :
    s.repository.get? name = none ∧ s' = s ∨
    ∃ body body' s₁, s.repository.get? name = some body ∧
      (body.mapIncludesM (expand counts depth [name])).run (takeOut name s) = .ok (body', s₁) ∧
      s' = putBack name body' s₁ := by
  unfold settleEntry settleEntryM at h
  rw [run_get_bind] at h
  cases hb : s.repository.get? name with
  | none =>
    simp only [hb] at h
    cases h
    exact .inl ⟨rfl, rfl⟩
  | some body =>
    simp only [hb] at h
    rw [run_modify_bind] at h
    obtain ⟨body', s₁, hbody, h⟩ := run_bind_eq_ok h
    cases h
    exact .inr ⟨body, body', s₁, rfl, hbody, rfl⟩

/-- The branches for an include, given a derivation for each way of inlining an entry. -/
theorem rewrites_replace {inline : String → Option String → Step Rule} {target : Include}
    {r : Rule} {rest rest' : List Rule} {s₁ : State}
    (hinline : ∀ name r, counts.get name = 1 → name ∉ active →
      (inline name tag).run s = .ok (r, s₁) →
      Rewrites counts active (.reference (.entry name) tag :: rest) s (r :: rest') s')
    (h : (replace counts active inline target tag).run s = .ok (r, s₁))
    (hrest : Rewrites counts active rest s₁ rest' s') :
    Rewrites counts active (.reference target tag :: rest) s (r :: rest') s' := by
  cases target with
  | external text =>
    cases h
    exact .inside rfl rfl .nil hrest
  | entry name =>
    simp only [replace] at h
    split_ifs at h with hone hactive
    · cases h
      exact .kept hone hrest
    · cases h
      exact .pinned (not_not.1 hone) hactive hrest
    · exact hinline name r (not_not.1 hone) hactive h

theorem rewrites_of_replace {inline : String → Option String → Step Rule}
    (hinline : ∀ name tag s r s₁ rest rest' s', counts.get name = 1 → name ∉ active →
      (inline name tag).run s = .ok (r, s₁) → Rewrites counts active rest s₁ rest' s' →
      Rewrites counts active (.reference (.entry name) tag :: rest) s (r :: rest') s')
    {rs rs' : List Rule}
    (h : (Rule.mapIncludesListM (replace counts active inline) rs).run s = .ok (rs', s')) :
    Rewrites counts active rs s rs' s' := by
  -- The children of the first rule are fewer than the rules, and so are those behind it.
  induction hn : Rule.sizeList rs using Nat.strongRecOn generalizing rs rs' s s' with
  | _ n ih =>
    cases rs with
    | nil =>
      cases h
      exact .nil
    | cons r rest =>
      obtain ⟨r', rest', s₁, rfl, hr, hrest⟩ := Rule.mapIncludesListM_cons_eq_ok h
      have hsize : Rule.sizeList (r :: rest) = r.size + Rule.sizeList rest := rfl
      have hchildren := Rule.size_eq r
      have hrest' : Rewrites counts active rest s₁ rest' s' :=
        ih (Rule.sizeList rest) (by omega) hrest rfl
      by_cases href : ∃ target tag, r = .reference target tag
      · obtain ⟨target, tag, rfl⟩ := href
        exact rewrites_replace (fun name r hone ha hi =>
          hinline name tag s r s₁ rest rest' s' hone ha hi hrest') hr hrest'
      · have hne : ∀ target tag, r ≠ .reference target tag := fun t n he => href ⟨t, n, he⟩
        obtain ⟨hnode, hrun⟩ := Rule.mapIncludesM_eq_ok hne hr
        exact .inside (Rule.reference?_eq_none hne) hnode
          (ih (Rule.sizeList r.children) (by omega) hrun rfl) hrest'

theorem rewrites_singleton {f : Include → Option String → Step Rule} {body body' : Rule}
    (hf : ∀ {rs rs' : List Rule} {s s' : State},
      (Rule.mapIncludesListM f rs).run s = .ok (rs', s') → Rewrites counts active rs s rs' s')
    (h : (body.mapIncludesM f).run s = .ok (body', s')) :
    Rewrites counts active [body] s [body'] s' := by
  refine hf ?_
  rw [Rule.mapIncludesListM, run_bind_ok h]
  rfl

theorem rewrites_of_expand {depth : Nat} {rs rs' : List Rule}
    (h : (Rule.mapIncludesListM (expand counts depth active) rs).run s = .ok (rs', s')) :
    Rewrites counts active rs s rs' s' := by
  induction depth generalizing active rs rs' s s' with
  | zero =>
    refine rewrites_of_replace (fun name tag s r s₁ rest rest' s' hone ha hi hrest => ?_) h
    cases hi
  | succ depth ih =>
    refine rewrites_of_replace (fun name tag s r s₁ rest rest' s' hone ha hi hrest => ?_) h
    obtain ⟨body, body', s₂, hb, hbody, hend⟩ := inlineEntry_eq_ok hi
    have hbody' := rewrites_singleton ih hbody
    rcases hend with ⟨hp, rfl, rfl⟩ | ⟨hp, rfl, rfl⟩
    · exact .restored hone ha hb hbody' hp hrest
    · exact .inlined hone ha hb hbody' hp hrest

theorem visits_of_run {depth : Nat} {names : List String} {u : Unit}
    (h : (names.forM (settleEntry counts depth)).run s = .ok (u, s')) :
    Visits counts names s s' := by
  induction names generalizing s with
  | nil =>
    cases h
    exact .nil
  | cons name rest ih =>
    unfold List.forM at h
    obtain ⟨u₁, s₁, hname, hrest⟩ := run_bind_eq_ok h
    rcases settleEntry_eq_ok hname with ⟨hb, rfl⟩ | ⟨body, body', s₂, hb, hbody, rfl⟩
    · exact .gone hb (ih hrest)
    · exact .settled hb (rewrites_singleton rewrites_of_expand hbody) (ih hrest)

/-- A pass rewrites the patterns and then visits the entries in use. -/
theorem pass_eq_ok {patterns rules : List Rule} {repository : Repository}
    (h : (pass counts patterns repository).run s = .ok (rules, s')) :
    ∃ s₁, Rewrites counts [] patterns s rules s₁ ∧
      Visits counts (repository.keys.filter fun name => 0 < counts.get name) s₁ s' := by
  unfold pass passM at h
  obtain ⟨rules', s₁, hpatterns, h⟩ := run_bind_eq_ok h
  obtain ⟨u, s₂, hentries, h⟩ := run_bind_eq_ok h
  cases h
  exact ⟨s₁, rewrites_of_expand hpatterns, visits_of_run hentries⟩

/-- What every move keeps is kept by the pass. -/
theorem pass_preserves {I : List String → State → Prop} {patterns rules : List Rule}
    {repository : Repository} (hI : Invariant counts I)
    (h : (pass counts patterns repository).run s = .ok (rules, s')) (hs : I [] s) : I [] s' := by
  obtain ⟨s₁, hpatterns, hentries⟩ := pass_eq_ok h
  exact hentries.preserves hI (hpatterns.preserves hI hs)

/-- What compaction gives is read off the pass. -/
theorem ofCounts_eq_ok {patterns : List Rule} {repository : Repository} {c : Compaction}
    (h : ofCounts counts patterns repository = .ok c) :
    ∃ s, (pass counts patterns repository).run { repository } = .ok (c.patterns, s) ∧
      c.repository = s.repository.filter (fun name _ => counts.get name ≠ 0) ∧
      c.inlined = s.inlined ∧
      c.pruned = (s.repository.keys.filter fun name => counts.get name = 0) ∧
      c.findings = s.repository.keys.filterMap (findingOf? counts) := by
  unfold ofCounts ofCountsM at h
  cases hrun : (pass counts patterns repository).run { repository } with
  | error e =>
    rw [hrun] at h
    cases h
  | ok p =>
    rw [hrun] at h
    cases h
    exact ⟨p.2, rfl, rfl, rfl, rfl, rfl⟩

end Runs

end TextMate.Compaction
