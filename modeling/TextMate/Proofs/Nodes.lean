import TextMate.Proofs.Traversal

/-! The rules that a rule consists of, each taken by itself. -/
namespace TextMate

namespace Rule

mutual

/-- The rule and all rules inside it, each without its children, in the order of a reader. -/
def nodes : Rule → List Rule
  | .reference target name => [.reference target name]
  | .leaf ⟨pattern, captures, name⟩ =>
    withoutChildren (.leaf ⟨pattern, captures, name⟩) :: nodesCaptures captures
  | .region ⟨opening, openingCaptures, closing, closingCaptures, captures, contentName, patterns,
      name⟩ =>
    withoutChildren (.region ⟨opening, openingCaptures, closing, closingCaptures, captures,
      contentName, patterns, name⟩) ::
      (nodesCaptures openingCaptures ++ nodesCaptures closingCaptures ++ nodesCaptures captures ++
        nodesList patterns)
  | .group ⟨patterns, name⟩ => withoutChildren (.group ⟨patterns, name⟩) :: nodesList patterns

def nodesList : List Rule → List Rule
  | [] => []
  | r :: rest => nodes r ++ nodesList rest

def nodesCaptures : List (Capture Rule) → List Rule
  | [] => []
  | ⟨_, patterns, _⟩ :: rest => nodesList patterns ++ nodesCaptures rest

end

theorem nodesList_eq_flatMap (rs : List Rule) : nodesList rs = rs.flatMap nodes := by
  induction rs with
  | nil => rfl
  | cons r rest ih => rw [nodesList, ih, List.flatMap_cons]

theorem nodesList_append (rs ss : List Rule) :
    nodesList (rs ++ ss) = nodesList rs ++ nodesList ss := by
  simp only [nodesList_eq_flatMap, List.flatMap_append]

theorem nodesCaptures_eq (captures : List (Capture Rule)) :
    nodesCaptures captures = nodesList (captures.map (·.patterns)).flatten := by
  induction captures with
  | nil => rfl
  | cons c rest ih =>
    rw [List.map_cons, List.flatten_cons, nodesList_append, ← ih]
    rfl

/-- A rule consists of itself and of what its children consist of. -/
theorem nodes_eq (r : Rule) : r.nodes = r.withoutChildren :: nodesList r.children := by
  cases r with
  | reference => rfl
  | leaf r => simp only [nodes, nodesCaptures_eq, children, innerLists]
  | region r =>
    simp only [nodes, nodesCaptures_eq, children, innerLists, List.flatten_append,
      nodesList_append, List.flatten_cons, List.flatten_nil, List.append_nil]
  | group r =>
    simp only [nodes, children, innerLists, List.flatten_cons, List.flatten_nil, List.append_nil]

theorem reference?_withoutChildren (r : Rule) : r.withoutChildren.reference? = r.reference? :=
  reference?_mapChildren _ r

theorem includesList_singleton (r : Rule) : includesList [r] = r.includes :=
  List.append_nil _

/-- The includes of a rule are among its nodes. -/
theorem includes_eq_filterMap (r : Rule) : r.includes = r.nodes.filterMap reference? := by
  induction r using induction_children with
  | step r ih =>
    have hlist : ∀ rs : List Rule, (∀ c ∈ rs, c.includes = c.nodes.filterMap reference?) →
        includesList rs = (nodesList rs).filterMap reference? := by
      intro rs hrs
      induction rs with
      | nil => rfl
      | cons c rest hrest =>
        rw [includesList, nodesList, List.filterMap_append, hrs c List.mem_cons_self,
          hrest fun d hd => hrs d (List.mem_cons_of_mem _ hd)]
    rw [nodes_eq, List.filterMap_cons, reference?_withoutChildren, ← hlist r.children ih]
    cases href : r.reference? with
    | none => exact includes_eq_children href
    | some name =>
      obtain ⟨tag, rfl⟩ := eq_of_reference? href
      rfl

theorem includesList_eq_filterMap (rs : List Rule) :
    includesList rs = (nodesList rs).filterMap reference? := by
  rw [includesList_eq_flatMap, nodesList_eq_flatMap, List.filterMap_flatMap]
  exact List.flatMap_congr fun r _ => includes_eq_filterMap r

end Rule

section Run

variable {σ ε α β : Type} {s : σ}

theorem run_bind_eq_ok {x : StateT σ (Except ε) α} {k : α → StateT σ (Except ε) β} {b : β}
    {s' : σ} (h : (x >>= k).run s = .ok (b, s')) :
    ∃ a s₁, x.run s = .ok (a, s₁) ∧ (k a).run s₁ = .ok (b, s') := by
  rw [StateT.run_bind] at h
  cases hx : x.run s with
  | error e =>
    rw [hx] at h
    cases h
  | ok p =>
    rw [hx] at h
    exact ⟨p.1, p.2, rfl, h⟩

theorem run_pure_eq_ok {a b : α} {s' : σ}
    (h : (pure a : StateT σ (Except ε) α).run s = .ok (b, s')) : b = a ∧ s' = s := by
  cases h
  exact ⟨rfl, rfl⟩

end Run

namespace Rule

section Running

variable {σ ε : Type} {f : Include → Option String → StateT σ (Except ε) Rule} {s s₁ s' : σ}

theorem mapIncludesListM_cons_eq_ok {r : Rule} {rest rs' : List Rule}
    (h : (mapIncludesListM f (r :: rest)).run s = .ok (rs', s')) :
    ∃ r' rest' s₁, rs' = r' :: rest' ∧ (mapIncludesM f r).run s = .ok (r', s₁) ∧
      (mapIncludesListM f rest).run s₁ = .ok (rest', s') := by
  rw [mapIncludesListM] at h
  obtain ⟨r', s₁, hr, h⟩ := run_bind_eq_ok h
  obtain ⟨rest', s₂, hrest, h⟩ := run_bind_eq_ok h
  obtain ⟨rfl, rfl⟩ := run_pure_eq_ok h
  exact ⟨r', rest', s₁, rfl, hr, hrest⟩

/-- A rule that is no include keeps its node. -/
theorem withoutChildren_of_mapIncludesM {r r' : Rule}
    (hr : ∀ target name, r ≠ .reference target name)
    (h : (mapIncludesM f r).run s = .ok (r', s')) : r'.withoutChildren = r.withoutChildren := by
  have hnode := congrArg (·.run s) (withoutChildren_mapChildrenM (mapIncludesM f) r)
  rw [← mapIncludesM_eq_mapChildrenM f hr, StateT.run_map, StateT.run_map, h] at hnode
  exact congrArg Prod.fst (Except.ok.inj hnode)

/-- The outcome for the children in a row is the outcome for the rule. -/
theorem run_mapIncludesListM_children {r : Rule} (hr : ∀ target name, r ≠ .reference target name) :
    (mapIncludesListM f r.children).run s =
      ((mapIncludesM f r).run s).map fun p => (p.1.children, p.2) := by
  rw [mapIncludesListM_eq_mapM, ← children_mapChildrenM, ← mapIncludesM_eq_mapChildrenM f hr,
    StateT.run_map]
  rfl

/-- A rule that is no include keeps its node, and its children are replaced in a row. -/
theorem mapIncludesM_eq_ok {r r' : Rule} (hr : ∀ target name, r ≠ .reference target name)
    (h : (mapIncludesM f r).run s = .ok (r', s')) :
    r'.withoutChildren = r.withoutChildren ∧
    (mapIncludesListM f r.children).run s = .ok (r'.children, s') := by
  refine ⟨withoutChildren_of_mapIncludesM hr h, ?_⟩
  rw [run_mapIncludesListM_children hr, h]
  rfl

end Running

end Rule

end TextMate
