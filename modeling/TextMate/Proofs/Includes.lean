import Mathlib
import TextMate.Rule.Children

/-! The includes inside a rule, and what it takes to replace all of them. -/
namespace TextMate

/-- The entry named by an include, if it names one. -/
def Include.names : Include → List String
  | .entry name => [name]
  | .external _ => []

section Run

variable {σ ε α β : Type} {s : σ}

theorem run_bind_ok {x : StateT σ (Except ε) α} {k : α → StateT σ (Except ε) β} {s' : σ} {a : α}
    (h : x.run s = .ok (a, s')) : (x >>= k).run s = (k a).run s' := by
  rw [StateT.run_bind, h]
  rfl

theorem run_get_bind (k : σ → StateT σ (Except ε) β) : (get >>= k).run s = (k s).run s := rfl

theorem run_modify_bind (f : σ → σ) (k : PUnit → StateT σ (Except ε) β) :
    (modify f >>= k).run s = (k ⟨⟩).run (f s) := rfl

end Run

namespace Rule

mutual

/-- The entry names included by a rule at any depth, in the order in which a reader meets them. -/
def includes : Rule → List String
  | .reference target _ => target.names
  | .leaf ⟨_, captures, _⟩ => includesCaptures captures
  | .region ⟨_, openingCaptures, _, closingCaptures, captures, _, patterns, _⟩ =>
    includesCaptures openingCaptures ++ includesCaptures closingCaptures ++
      includesCaptures captures ++ includesList patterns
  | .group ⟨patterns, _⟩ => includesList patterns

def includesList : List Rule → List String
  | [] => []
  | r :: rest => includes r ++ includesList rest

def includesCaptures : List (Capture Rule) → List String
  | [] => []
  | ⟨_, patterns, _⟩ :: rest => includesList patterns ++ includesCaptures rest

end

theorem includesList_eq_flatMap (rs : List Rule) : includesList rs = rs.flatMap includes := by
  induction rs with
  | nil => rfl
  | cons r rest ih => rw [includesList, ih, List.flatMap_cons]

theorem includesList_append (rs ss : List Rule) :
    includesList (rs ++ ss) = includesList rs ++ includesList ss := by
  simp only [includesList_eq_flatMap, List.flatMap_append]

theorem includesCaptures_eq (captures : List (Capture Rule)) :
    includesCaptures captures = includesList (captures.map (·.patterns)).flatten := by
  induction captures with
  | nil => rfl
  | cons c rest ih =>
    rw [List.map_cons, List.flatten_cons, includesList_append, ← ih]
    rfl

theorem eq_of_reference? {r : Rule} {name : String} (h : r.reference? = some name) :
    ∃ tag, r = .reference (.entry name) tag := by
  cases r with
  | reference target tag =>
    cases target with
    | entry n => exact ⟨tag, by cases h; rfl⟩
    | external t => cases h
  | leaf r => cases h
  | region r => cases h
  | group r => cases h

/-- A rule that is no include has the includes of its children. -/
theorem includes_eq_children {r : Rule} (h : r.reference? = none) :
    r.includes = includesList r.children := by
  cases r with
  | reference target name =>
    cases target with
    | entry n => cases h
    | external t => rfl
  | leaf r => simp only [includes, includesCaptures_eq, children, innerLists]
  | region r =>
    simp only [includes, includesCaptures_eq, children, innerLists, List.flatten_append,
      includesList_append, List.flatten_cons, List.flatten_nil, List.append_nil]
  | group r => simp only [includes, children, innerLists, List.flatten_cons, List.flatten_nil,
      List.append_nil]

theorem reference?_eq_none {r : Rule} (h : ∀ target name, r ≠ .reference target name) :
    r.reference? = none := by
  cases r with
  | reference target name => exact absurd rfl (h target name)
  | leaf r => rfl
  | region r => rfl
  | group r => rfl

theorem includes_subset_of_mem_children {r c : Rule} (h : c ∈ r.children) :
    c.includes ⊆ r.includes := by
  intro name hn
  cases href : r.reference? with
  | none =>
    rw [includes_eq_children href, includesList_eq_flatMap]
    exact List.mem_flatMap.2 ⟨c, h, hn⟩
  | some target =>
    obtain ⟨tag, rfl⟩ := eq_of_reference? href
    cases h

theorem size_lt_of_mem_children {r c : Rule} (h : c ∈ r.children) : c.size < r.size := by
  have hc : ∀ rs : List Rule, c ∈ rs → c.size ≤ sizeList rs := by
    intro rs hrs
    induction rs with
    | nil => cases hrs
    | cons a rest ih =>
      rw [sizeList]
      rcases List.mem_cons.1 hrs with rfl | hrs
      · omega
      · have := ih hrs
        omega
  have := hc _ h
  rw [size_eq r]
  omega

/-- Whatever passes from the children of a rule to the rule holds of all rules. -/
theorem induction_children {P : Rule → Prop} (step : ∀ r, (∀ c ∈ r.children, P c) → P r)
    (r : Rule) : P r := by
  induction h : r.size using Nat.strongRecOn generalizing r with
  | _ n ih =>
    refine step r fun c hc => ih c.size ?_ c rfl
    rw [← h]
    exact size_lt_of_mem_children hc

/-- The rule with its children replaced. -/
def mapChildren (g : Rule → Rule) (r : Rule) : Rule := Id.run (r.mapChildrenM fun c => pure (g c))

/-- The rule with all its includes replaced, at any depth. -/
def mapIncludes (f : Include → Option String → Rule) (r : Rule) : Rule :=
  Id.run (r.mapIncludesM fun target name => pure (f target name))

/-- Replaces the patterns of every capture. -/
def inCaptures (g : Rule → Rule) (captures : List (Capture Rule)) : List (Capture Rule) :=
  captures.map fun c => { c with patterns := c.patterns.map g }

section Replacing

variable (f : Include → Option String → Rule) (g : Rule → Rule)

theorem run_mapIncludesListM (rs : List Rule) :
    Id.run (mapIncludesListM (fun target name => pure (f target name)) rs) =
      rs.map (mapIncludes f) := by
  induction rs with
  | nil => rfl
  | cons r rest ih =>
    rw [List.map_cons, ← ih]
    rfl

theorem run_mapIncludesCapturesM (captures : List (Capture Rule)) :
    Id.run (mapIncludesCapturesM (fun target name => pure (f target name)) captures) =
      inCaptures (mapIncludes f) captures := by
  induction captures with
  | nil => rfl
  | cons c rest ih =>
    rw [inCaptures, List.map_cons, ← run_mapIncludesListM, ← inCaptures, ← ih]
    rfl

@[simp] theorem mapIncludes_reference (target : Include) (name : Option String) :
    mapIncludes f (.reference target name) = f target name := rfl

@[simp] theorem mapIncludes_leaf (r : Leaf Rule) :
    mapIncludes f (.leaf r) =
      .leaf { r with captures := inCaptures (mapIncludes f) r.captures } := by
  rw [← run_mapIncludesCapturesM]
  rfl

@[simp] theorem mapIncludes_region (r : Region Rule) :
    mapIncludes f (.region r) =
      .region { r with
        openingCaptures := inCaptures (mapIncludes f) r.openingCaptures
        closingCaptures := inCaptures (mapIncludes f) r.closingCaptures
        captures := inCaptures (mapIncludes f) r.captures
        patterns := r.patterns.map (mapIncludes f) } := by
  rw [← run_mapIncludesCapturesM, ← run_mapIncludesCapturesM, ← run_mapIncludesCapturesM,
    ← run_mapIncludesListM]
  rfl

@[simp] theorem mapIncludes_group (r : Group Rule) :
    mapIncludes f (.group r) = .group { r with patterns := r.patterns.map (mapIncludes f) } := by
  rw [← run_mapIncludesListM]
  rfl

theorem run_inCaptures (captures : List (Capture Rule)) :
    Id.run (mapChildrenM.inCaptures (fun c => pure (g c)) captures) = inCaptures g captures := by
  simp [mapChildrenM.inCaptures, inCaptures]

@[simp] theorem mapChildren_leaf (r : Leaf Rule) :
    mapChildren g (.leaf r) = .leaf { r with captures := inCaptures g r.captures } := by
  rw [← run_inCaptures]
  rfl

@[simp] theorem mapChildren_region (r : Region Rule) :
    mapChildren g (.region r) =
      .region { r with
        openingCaptures := inCaptures g r.openingCaptures
        closingCaptures := inCaptures g r.closingCaptures
        captures := inCaptures g r.captures
        patterns := r.patterns.map g } := by
  simp [mapChildren, mapChildrenM, run_inCaptures]

@[simp] theorem mapChildren_group (r : Group Rule) :
    mapChildren g (.group r) = .group { r with patterns := r.patterns.map g } := by
  simp [mapChildren, mapChildrenM]

theorem mem_children_of_mem_captures {captures : List (Capture Rule)} {c : Capture Rule} {r : Rule}
    (hc : c ∈ captures) (hr : r ∈ c.patterns) : r ∈ (captures.map (·.patterns)).flatten :=
  List.mem_flatten.2 ⟨c.patterns, List.mem_map.2 ⟨c, hc, rfl⟩, hr⟩

theorem inCaptures_congr {g g' : Rule → Rule} {captures : List (Capture Rule)}
    (h : ∀ r ∈ (captures.map (·.patterns)).flatten, g r = g' r) :
    inCaptures g captures = inCaptures g' captures := by
  refine List.map_congr_left fun c hc => ?_
  rw [List.map_congr_left fun r hr => h r (mem_children_of_mem_captures hc hr)]

theorem mapChildren_congr {g g' : Rule → Rule} {r : Rule} (h : ∀ c ∈ r.children, g c = g' c) :
    r.mapChildren g = r.mapChildren g' := by
  cases r with
  | reference target name => rfl
  | leaf r =>
    rw [mapChildren_leaf, mapChildren_leaf, inCaptures_congr h]
  | region r =>
    simp only [children, innerLists, List.flatten_append, List.flatten_cons, List.flatten_nil,
      List.append_nil, List.mem_append] at h
    rw [mapChildren_region, mapChildren_region,
      inCaptures_congr fun c hc => h c (.inl (.inl (.inl hc))),
      inCaptures_congr fun c hc => h c (.inl (.inl (.inr hc))),
      inCaptures_congr fun c hc => h c (.inl (.inr hc)),
      List.map_congr_left fun c hc => h c (.inr hc)]
  | group r =>
    simp only [children, innerLists, List.flatten_cons, List.flatten_nil, List.append_nil] at h
    rw [mapChildren_group, mapChildren_group, List.map_congr_left h]

theorem inCaptures_id (captures : List (Capture Rule)) : inCaptures id captures = captures := by
  simp [inCaptures]

theorem mapChildren_id (r : Rule) : r.mapChildren id = r := by
  cases r with
  | reference target name => rfl
  | leaf r => rw [mapChildren_leaf, inCaptures_id]
  | region r => rw [mapChildren_region, inCaptures_id, inCaptures_id, inCaptures_id, List.map_id]
  | group r => rw [mapChildren_group, List.map_id]

theorem inCaptures_inCaptures (g' : Rule → Rule) (captures : List (Capture Rule)) :
    inCaptures g' (inCaptures g captures) = inCaptures (g' ∘ g) captures := by
  simp [inCaptures]

theorem mapChildren_mapChildren (g' : Rule → Rule) (r : Rule) :
    (r.mapChildren g).mapChildren g' = r.mapChildren (g' ∘ g) := by
  cases r with
  | reference target name => rfl
  | leaf r => simp only [mapChildren_leaf, inCaptures_inCaptures]
  | region r => simp only [mapChildren_region, inCaptures_inCaptures, List.map_map]
  | group r => simp only [mapChildren_group, List.map_map]

theorem inCaptures_patterns (captures : List (Capture Rule)) :
    (inCaptures g captures).map (·.patterns) = (captures.map (·.patterns)).map (List.map g) := by
  simp [inCaptures]

/-- Replacing the children keeps them where they are. -/
theorem innerLists_mapChildren (r : Rule) :
    (r.mapChildren g).innerLists = r.innerLists.map (List.map g) := by
  cases r with
  | reference target name => rfl
  | leaf r => rw [mapChildren_leaf, innerLists, inCaptures_patterns, innerLists]
  | region r =>
    rw [mapChildren_region]
    simp only [innerLists, inCaptures_patterns, List.map_append, List.map_cons, List.map_nil]
  | group r => rw [mapChildren_group, innerLists, innerLists, List.map_cons, List.map_nil]

theorem children_mapChildren (r : Rule) : (r.mapChildren g).children = r.children.map g := by
  rw [children, innerLists_mapChildren, children, List.map_flatten]

theorem reference?_mapChildren (r : Rule) : (r.mapChildren g).reference? = r.reference? := by
  cases r with
  | reference target name => rfl
  | leaf r => rw [mapChildren_leaf]; rfl
  | region r => rw [mapChildren_region]; rfl
  | group r => rw [mapChildren_group]; rfl

theorem includes_mapChildren {r : Rule} (h : r.reference? = none) :
    (r.mapChildren g).includes = r.children.flatMap fun c => (g c).includes := by
  rw [includes_eq_children ((reference?_mapChildren g r).trans h), children_mapChildren,
    includesList_eq_flatMap, List.flatMap_map]

/-- Only the includes themselves are not replaced child by child. -/
theorem mapIncludes_eq_mapChildren {r : Rule} (h : ∀ target name, r ≠ .reference target name) :
    r.mapIncludes f = r.mapChildren (mapIncludes f) := by
  cases r with
  | reference target name => exact absurd rfl (h target name)
  | leaf r => rw [mapIncludes_leaf, mapChildren_leaf]
  | region r => rw [mapIncludes_region, mapChildren_region]
  | group r => rw [mapIncludes_group, mapChildren_group]

/-- A function that works on the children of a rule replaces includes by what it makes of them. -/
theorem eq_mapIncludes {g : Rule → Rule}
    (h : ∀ r, (∀ target name, r ≠ .reference target name) → g r = r.mapChildren g) (r : Rule) :
    g r = r.mapIncludes fun target name => g (.reference target name) := by
  induction r using induction_children with
  | step r ih =>
    by_cases hr : ∃ target name, r = .reference target name
    · obtain ⟨target, name, rfl⟩ := hr
      rfl
    · have hr : ∀ target name, r ≠ .reference target name := fun t n he => hr ⟨t, n, he⟩
      rw [h r hr, mapIncludes_eq_mapChildren _ hr, mapChildren_congr ih]

/-- Includes matter only by what stands in their places. -/
theorem mapIncludes_congr {f f' : Include → Option String → Rule} {r : Rule}
    (h : ∀ target name, target.names ⊆ r.includes → f target name = f' target name) :
    r.mapIncludes f = r.mapIncludes f' := by
  induction r using induction_children with
  | step r ih =>
    by_cases hr : ∃ target name, r = .reference target name
    · obtain ⟨target, name, rfl⟩ := hr
      exact h target name fun n hn => hn
    · have hr : ∀ target name, r ≠ .reference target name := fun t n he => hr ⟨t, n, he⟩
      rw [mapIncludes_eq_mapChildren _ hr, mapIncludes_eq_mapChildren _ hr]
      refine mapChildren_congr fun c hc => ih c hc fun target name ht => h target name ?_
      exact List.Subset.trans ht (includes_subset_of_mem_children hc)

end Replacing

section Consuming

variable {σ ε : Type}

/--
Given the includes still to be met, the first of them in front, each replacement gives what it
should and leaves a state that fits the includes behind it.
-/
def Consumes (f : Include → Option String → StateT σ (Except ε) Rule)
    (result : Include → Option String → Rule) (fits : List String → σ → Prop) : Prop :=
  ∀ target name pending s, fits (target.names ++ pending) s →
    ∃ s', (f target name).run s = .ok (result target name, s') ∧ fits pending s'

variable {f : Include → Option String → StateT σ (Except ε) Rule}
  {result : Include → Option String → Rule} {fits : List String → σ → Prop}

mutual

/-- What holds of single includes holds of all the includes of a rule in a row. -/
theorem Consumes.rule (hf : Consumes f result fits) :
    (r : Rule) → ∀ {pending s}, fits (r.includes ++ pending) s →
      ∃ s', (r.mapIncludesM f).run s = .ok (r.mapIncludes result, s') ∧ fits pending s'
  | .reference target name, _, _, h => hf target name _ _ h
  | .leaf ⟨_, captures, _⟩, _, _, h => by
    obtain ⟨s', hs, h'⟩ := hf.captures captures h
    refine ⟨s', ?_, h'⟩
    rw [mapIncludesM, run_bind_ok hs, mapIncludes_leaf]
    rfl
  | .region ⟨_, openingCaptures, _, closingCaptures, captures, _, patterns, _⟩, _, _, h => by
    rw [includes, List.append_assoc, List.append_assoc, List.append_assoc] at h
    obtain ⟨s₁, hs₁, h₁⟩ := hf.captures openingCaptures h
    obtain ⟨s₂, hs₂, h₂⟩ := hf.captures closingCaptures h₁
    obtain ⟨s₃, hs₃, h₃⟩ := hf.captures captures h₂
    obtain ⟨s₄, hs₄, h₄⟩ := hf.list patterns h₃
    refine ⟨s₄, ?_, h₄⟩
    rw [mapIncludesM, run_bind_ok hs₁, run_bind_ok hs₂, run_bind_ok hs₃, run_bind_ok hs₄,
      mapIncludes_region]
    rfl
  | .group ⟨patterns, _⟩, _, _, h => by
    obtain ⟨s', hs, h'⟩ := hf.list patterns h
    refine ⟨s', ?_, h'⟩
    rw [mapIncludesM, run_bind_ok hs, mapIncludes_group]
    rfl

theorem Consumes.list (hf : Consumes f result fits) :
    (rs : List Rule) → ∀ {pending s}, fits (includesList rs ++ pending) s →
      ∃ s', (mapIncludesListM f rs).run s = .ok (rs.map (mapIncludes result), s') ∧ fits pending s'
  | [], _, s, h => ⟨s, rfl, h⟩
  | r :: rest, _, _, h => by
    rw [includesList, List.append_assoc] at h
    obtain ⟨s₁, hs₁, h₁⟩ := hf.rule r h
    obtain ⟨s₂, hs₂, h₂⟩ := hf.list rest h₁
    refine ⟨s₂, ?_, h₂⟩
    rw [mapIncludesListM, run_bind_ok hs₁, run_bind_ok hs₂]
    rfl

theorem Consumes.captures (hf : Consumes f result fits) :
    (captures : List (Capture Rule)) → ∀ {pending s},
      fits (includesCaptures captures ++ pending) s →
        ∃ s', (mapIncludesCapturesM f captures).run s =
          .ok (inCaptures (mapIncludes result) captures, s') ∧ fits pending s'
  | [], _, s, h => ⟨s, rfl, h⟩
  | ⟨_, patterns, _⟩ :: rest, _, _, h => by
    rw [includesCaptures, List.append_assoc] at h
    obtain ⟨s₁, hs₁, h₁⟩ := hf.list patterns h
    obtain ⟨s₂, hs₂, h₂⟩ := hf.captures rest h₁
    refine ⟨s₂, ?_, h₂⟩
    rw [mapIncludesCapturesM, run_bind_ok hs₁, run_bind_ok hs₂]
    rfl

end

end Consuming

end Rule

end TextMate
