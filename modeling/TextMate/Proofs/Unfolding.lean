import TextMate.Proofs.Nodes
import TextMate.Proofs.Result

/-! The tree of rules that a grammar stands for, in which no include of an entry is left. -/
namespace TextMate

/-- The child at a place of one of the lists of a rule. -/
def Rule.child? (r : Rule) (list place : Nat) : Option Rule :=
  r.innerLists[list]?.bind fun children => children[place]?

namespace Repository

/-- A rule that is no include of an entry stands for itself, an include for what its body does. -/
inductive StandsFor (repository : Repository) : Rule → Rule → Prop
  | itself {r : Rule} (h : r.reference? = none) : StandsFor repository r r
  | include {name : String} {tag : Option String} {body node : Rule}
    (hb : repository.get? name = some body) (h : StandsFor repository body node) :
    StandsFor repository (.reference (.entry name) tag) node

/-- The rule at the end of a path of children, each given by a list and a place in it. -/
inductive Leads (repository : Repository) : Rule → List (Nat × Nat) → Rule → Prop
  | here {r node : Rule} (h : repository.StandsFor r node) : Leads repository r [] node
  | child {r node c found : Rule} {list place : Nat} {path : List (Nat × Nat)}
    (h : repository.StandsFor r node) (hc : node.child? list place = some c)
    (hp : Leads repository c path found) : Leads repository r ((list, place) :: path) found

end Repository

/-- The path leads from the pattern with the number `start` to the node. -/
def Grammar.Unfolds (g : Grammar) (start : Nat) (path : List (Nat × Nat)) (node : Rule) : Prop :=
  ∃ r, g.patterns[start]? = some r ∧ g.repository.Leads r path node

namespace Repository

variable {repository : Repository} {r node node' : Rule}

theorem StandsFor.reference? (h : repository.StandsFor r node) : node.reference? = none := by
  induction h with
  | itself h => exact h
  | «include» hb h ih => exact ih

theorem StandsFor.unique (h : repository.StandsFor r node) (h' : repository.StandsFor r node') :
    node = node' := by
  induction h with
  | itself h =>
    cases h' with
    | itself h' => rfl
    | «include» hb' h' => cases h
  | «include» hb h ih =>
    cases h' with
    | itself h' => cases h'
    | «include» hb' h' =>
      rw [hb] at hb'
      cases hb'
      exact ih h'

theorem Leads.unique {path : List (Nat × Nat)} (h : repository.Leads r path node)
    (h' : repository.Leads r path node') : node = node' := by
  induction h with
  | here h =>
    cases h' with
    | here h' => exact h.unique h'
  | child h hc hp ih =>
    cases h' with
    | child h' hc' hp' =>
      rw [← h.unique h', hc] at hc'
      cases hc'
      exact ih hp'

end Repository

theorem Grammar.Unfolds.unique {g : Grammar} {start : Nat} {path : List (Nat × Nat)}
    {node node' : Rule} (h : g.Unfolds start path node) (h' : g.Unfolds start path node') :
    node = node' := by
  obtain ⟨r, hr, hl⟩ := h
  obtain ⟨r', hr', hl'⟩ := h'
  rw [hr] at hr'
  cases hr'
  exact hl.unique hl'

theorem Rule.child?_mapChildren (f : Rule → Rule) (r : Rule) (list place : Nat) :
    (r.mapChildren f).child? list place = (r.child? list place).map f := by
  unfold Rule.child?
  rw [Rule.innerLists_mapChildren, List.getElem?_map]
  cases r.innerLists[list]? with
  | none => rfl
  | some children => simp

theorem Rule.mem_children_of_child? {r c : Rule} {list place : Nat}
    (h : r.child? list place = some c) : c ∈ r.children := by
  unfold Rule.child? at h
  obtain ⟨children, hl, hc⟩ := Option.bind_eq_some_iff.1 h
  exact List.mem_flatten.2 ⟨children, List.mem_of_getElem? hl, List.mem_of_getElem? hc⟩

section Simulation

variable {g result : Grammar} {counts : UseCounts} {inlined : Rule → Rule}

/-- All includes in the rule are counted. -/
def UseCounts.Covers (counts : UseCounts) (r : Rule) : Prop :=
  ∀ name ∈ r.includes, 0 < counts.get name

theorem UseCounts.Covers.child {r c : Rule} (h : counts.Covers r) (hc : c ∈ r.children) :
    counts.Covers c :=
  fun name hn => h name (Rule.includes_subset_of_mem_children hc hn)

theorem Repository.Counted.covers_body {repository : Repository} {patterns : List Rule}
    (hc : repository.Counted patterns counts) {name : String} {body : Rule}
    (hu : 0 < counts.get name) (hb : repository.get? name = some body) : counts.Covers body :=
  fun inner hi => (hc.pos_iff inner).2 (.body ((hc.pos_iff name).1 hu) hb hi)

theorem Repository.Counted.covers_pattern {repository : Repository} {patterns : List Rule}
    (hc : repository.Counted patterns counts) {r : Rule} (hr : r ∈ patterns) :
    counts.Covers r := by
  intro name hn
  refine (hc.pos_iff name).2 (.pattern ?_)
  rw [Rule.includesList_eq_flatMap]
  exact List.mem_flatMap.2 ⟨r, hr, hn⟩

theorem covers_of_standsFor (hc : g.repository.Counted g.patterns counts) {r node : Rule}
    (h : g.repository.StandsFor r node) (hr : counts.Covers r) : counts.Covers node := by
  induction h with
  | itself h => exact hr
  | «include» hb h ih => exact ih (hc.covers_body (hr _ List.mem_cons_self) hb)

theorem reference?_inlined (hin : g.repository.Inlines counts inlined) {r : Rule}
    (h : r.reference? = none) : (inlined r).reference? = none := by
  rw [hin.inside r h, Rule.reference?_mapChildren, h]

/-- What a rule stands for before, its inlined form stands for after. -/
theorem standsFor_inlined (hc : g.repository.Counted g.patterns counts)
    (hin : g.repository.Inlines counts inlined) (hg : g.Inlined counts inlined result)
    {r node : Rule} (h : g.repository.StandsFor r node) (hr : counts.Covers r) :
    result.repository.StandsFor (inlined r) (inlined node) := by
  induction h with
  | itself h => exact .itself (reference?_inlined hin h)
  | @«include» name tag body node hb h ih =>
    have hu : 0 < counts.get name := hr name List.mem_cons_self
    have hbody := ih (hc.covers_body hu hb)
    by_cases hone : counts.get name = 1
    · rwa [hin.once name tag body hone hb]
    · rw [hin.kept name tag hone]
      refine .include ?_ hbody
      rw [hg.repository, if_pos (by omega), hb]
      rfl

/-- What an inlined rule stands for is the inlined form of what the rule stood for. -/
theorem exists_standsFor (hc : g.repository.Counted g.patterns counts)
    (hin : g.repository.Inlines counts inlined) (hg : g.Inlined counts inlined result)
    {r r' node' : Rule} (h : result.repository.StandsFor r' node') (hr : inlined r = r') :
    ∃ node, g.repository.StandsFor r node ∧ inlined node = node' := by
  -- Along bodies used once the rule after stays where it is, so each step needs its own induction.
  induction h generalizing r with
  | itself href' =>
    induction r using hc.inlinable.induction with
    | once name tag body hone hb ih =>
      rw [hin.once name tag body hone hb] at hr
      obtain ⟨node, hn, heq⟩ := ih hr
      exact ⟨node, .include hb hn, heq⟩
    | kept name tag hone =>
      rw [← hr, hin.kept name tag hone] at href'
      cases href'
    | inside r href ih => exact ⟨r, .itself href, hr⟩
  | @«include» name' tag' body' node' hb' h' ihafter =>
    induction r using hc.inlinable.induction with
    | once name tag body hone hb ih =>
      rw [hin.once name tag body hone hb] at hr
      obtain ⟨node, hn, heq⟩ := ih hr
      exact ⟨node, .include hb hn, heq⟩
    | kept name tag hone =>
      rw [hin.kept name tag hone] at hr
      cases hr
      rw [hg.repository] at hb'
      split at hb'
      · obtain ⟨body, hb, hbody⟩ := Option.map_eq_some_iff.1 hb'
        obtain ⟨node, hn, heq⟩ := ihafter hbody
        exact ⟨node, .include hb hn, heq⟩
      · cases hb'
    | inside r href ih =>
      have := reference?_inlined hin href
      rw [hr] at this
      cases this

theorem child?_inlined (hin : g.repository.Inlines counts inlined) {node : Rule}
    (h : node.reference? = none) (list place : Nat) :
    (inlined node).child? list place = (node.child? list place).map inlined := by
  rw [hin.inside node h, Rule.child?_mapChildren]

theorem leads_inlined (hc : g.repository.Counted g.patterns counts)
    (hin : g.repository.Inlines counts inlined) (hg : g.Inlined counts inlined result)
    {r node : Rule} {path : List (Nat × Nat)} (h : g.repository.Leads r path node)
    (hr : counts.Covers r) : result.repository.Leads (inlined r) path (inlined node) := by
  induction h with
  | here h => exact .here (standsFor_inlined hc hin hg h hr)
  | @child r node c found list place path h hch hp ih =>
    have hcovers := covers_of_standsFor hc h hr
    refine .child (standsFor_inlined hc hin hg h hr) ?_
      (ih (hcovers.child (Rule.mem_children_of_child? hch)))
    rw [child?_inlined hin h.reference?, hch]
    rfl

theorem exists_leads (hc : g.repository.Counted g.patterns counts)
    (hin : g.repository.Inlines counts inlined) (hg : g.Inlined counts inlined result)
    {r r' node' : Rule} {path : List (Nat × Nat)} (h : result.repository.Leads r' path node')
    (hr : inlined r = r') : ∃ node, g.repository.Leads r path node ∧ inlined node = node' := by
  induction h generalizing r with
  | here h =>
    obtain ⟨node, hn, heq⟩ := exists_standsFor hc hin hg h hr
    exact ⟨node, .here hn, heq⟩
  | @child r' node' c' found' list place path h hch hp ih =>
    obtain ⟨node, hn, heq⟩ := exists_standsFor hc hin hg h hr
    rw [← heq, child?_inlined hin hn.reference?] at hch
    obtain ⟨c, hc', hcc⟩ := Option.map_eq_some_iff.1 hch
    obtain ⟨found, hf, hfound⟩ := ih hcc
    exact ⟨found, .child hn hc' hf, hfound⟩

theorem unfolds_inlined (hc : g.repository.Counted g.patterns counts)
    (hin : g.repository.Inlines counts inlined) (hg : g.Inlined counts inlined result)
    {start : Nat} {path : List (Nat × Nat)} {node : Rule} (h : g.Unfolds start path node) :
    result.Unfolds start path (inlined node) := by
  obtain ⟨r, hr, hl⟩ := h
  refine ⟨inlined r, ?_, leads_inlined hc hin hg hl (hc.covers_pattern (List.mem_of_getElem? hr))⟩
  rw [hg.patterns, List.getElem?_map, hr]
  rfl

theorem exists_unfolds (hc : g.repository.Counted g.patterns counts)
    (hin : g.repository.Inlines counts inlined) (hg : g.Inlined counts inlined result)
    {start : Nat} {path : List (Nat × Nat)} {node' : Rule} (h : result.Unfolds start path node') :
    ∃ node, g.Unfolds start path node := by
  obtain ⟨r', hr', hl⟩ := h
  rw [hg.patterns, List.getElem?_map] at hr'
  obtain ⟨r, hr, heq⟩ := Option.map_eq_some_iff.1 hr'
  obtain ⟨node, hn, -⟩ := exists_leads hc hin hg hl heq
  exact ⟨node, r, hr, hn⟩

theorem withoutChildren_inlined (hin : g.repository.Inlines counts inlined) {node : Rule}
    (h : node.reference? = none) : (inlined node).withoutChildren = node.withoutChildren := by
  rw [hin.inside node h]
  exact Rule.mapChildren_mapChildren inlined _ node

theorem Repository.Leads.reference? {repository : Repository} {r node : Rule}
    {path : List (Nat × Nat)} (h : repository.Leads r path node) : node.reference? = none := by
  induction h with
  | here h => exact h.reference?
  | child h hc hp ih => exact ih

end Simulation

/--
A run that completes keeps what the grammar stands for. Every path from a pattern through the
children of rules and the bodies of included entries finds a rule before if and only if it does
after, and the two rules differ at most in what their children are.
-/
theorem Grammar.run_unfolds (g : Grammar) (deny : FindingSet)
    (h : (g.run deny).completes = true) :
    (g.run deny).grammar.patterns.length = g.patterns.length ∧
    ∀ start path,
      ((∃ node, g.Unfolds start path node) ↔
        ∃ node, (g.run deny).grammar.Unfolds start path node) ∧
      ∀ node node', g.Unfolds start path node → (g.run deny).grammar.Unfolds start path node' →
        node.withoutChildren = node'.withoutChildren := by
  obtain ⟨counts, inlined, -, hc, hin, hg⟩ := inlined_of_completes h
  refine ⟨by rw [hg.patterns, List.length_map], fun start path => ⟨⟨?_, ?_⟩, ?_⟩⟩
  · rintro ⟨node, hn⟩
    exact ⟨inlined node, unfolds_inlined hc hin hg hn⟩
  · rintro ⟨node', hn'⟩
    exact exists_unfolds hc hin hg hn'
  · intro node node' hn hn'
    rw [hn'.unique (unfolds_inlined hc hin hg hn)]
    obtain ⟨r, -, hl⟩ := hn
    exact (withoutChildren_inlined hin hl.reference?).symm

theorem Grammar.run_unfolds_circular : (circular.run .all).completes = true ∧
    (circular.run .all).grammar.patterns.length = circular.patterns.length ∧
    ∀ start path,
      ((∃ node, circular.Unfolds start path node) ↔
        ∃ node, (circular.run .all).grammar.Unfolds start path node) ∧
      ∀ node node', circular.Unfolds start path node →
        (circular.run .all).grammar.Unfolds start path node' →
        node.withoutChildren = node'.withoutChildren :=
  have h : (circular.run .all).completes = true := by cbv
  ⟨h, run_unfolds circular .all h⟩

end TextMate
