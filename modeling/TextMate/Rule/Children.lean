import TextMate.Rule

/-! The rules directly and indirectly inside a rule, and how to replace them. -/
namespace TextMate.Rule

/-- The patterns of each capture, in the order opening, closing, shared; then the own patterns. -/
def innerLists : Rule → List (List Rule)
  | .reference .. => []
  | .leaf r => r.captures.map (·.patterns)
  | .region r =>
    r.openingCaptures.map (·.patterns) ++ r.closingCaptures.map (·.patterns) ++
      r.captures.map (·.patterns) ++ [r.patterns]
  | .group r => [r.patterns]

def children (r : Rule) : List Rule := r.innerLists.flatten

section Replacing

variable {m : Type → Type} [Monad m]

/-- Replaces the children one after the other, in the order of `innerLists`. -/
def mapChildrenM (f : Rule → m Rule) : Rule → m Rule
  | .reference target name => return .reference target name
  | .leaf r => return .leaf { r with captures := ← inCaptures r.captures }
  | .region r => do
    let openingCaptures ← inCaptures r.openingCaptures
    let closingCaptures ← inCaptures r.closingCaptures
    let captures ← inCaptures r.captures
    let patterns ← r.patterns.mapM f
    return .region { r with openingCaptures, closingCaptures, captures, patterns }
  | .group r => return .group { r with patterns := ← r.patterns.mapM f }
where
  inCaptures (captures : List (Capture Rule)) : m (List (Capture Rule)) :=
    captures.mapM fun c => return { c with patterns := ← c.patterns.mapM f }

variable (f : Include → Option String → m Rule)

mutual

/-- Replaces every include at any depth, in the order in which a reader meets them. -/
def mapIncludesM : Rule → m Rule
  | .reference target name => f target name
  | .leaf ⟨pattern, captures, name⟩ => do
    let captures ← mapIncludesCapturesM captures
    return .leaf ⟨pattern, captures, name⟩
  | .region ⟨opening, openingCaptures, closing, closingCaptures, captures, contentName, patterns,
      name⟩ => do
    let openingCaptures ← mapIncludesCapturesM openingCaptures
    let closingCaptures ← mapIncludesCapturesM closingCaptures
    let captures ← mapIncludesCapturesM captures
    let patterns ← mapIncludesListM patterns
    return .region ⟨opening, openingCaptures, closing, closingCaptures, captures, contentName,
      patterns, name⟩
  | .group ⟨patterns, name⟩ => do
    let patterns ← mapIncludesListM patterns
    return .group ⟨patterns, name⟩

def mapIncludesListM : List Rule → m (List Rule)
  | [] => return []
  | r :: rest => do
    let r ← mapIncludesM r
    let rest ← mapIncludesListM rest
    return r :: rest

def mapIncludesCapturesM : List (Capture Rule) → m (List (Capture Rule))
  | [] => return []
  | ⟨skip, patterns, name⟩ :: rest => do
    let patterns ← mapIncludesListM patterns
    let rest ← mapIncludesCapturesM rest
    return ⟨skip, patterns, name⟩ :: rest

end

end Replacing

mutual

/-- The number of rules in a rule, itself included. -/
def size : Rule → Nat
  | .reference .. => 1
  | .leaf ⟨_, captures, _⟩ => sizeCaptures captures + 1
  | .region ⟨_, openingCaptures, _, closingCaptures, captures, _, patterns, _⟩ =>
    sizeCaptures openingCaptures + sizeCaptures closingCaptures + sizeCaptures captures +
      sizeList patterns + 1
  | .group ⟨patterns, _⟩ => sizeList patterns + 1

def sizeList : List Rule → Nat
  | [] => 0
  | r :: rest => size r + sizeList rest

def sizeCaptures : List (Capture Rule) → Nat
  | [] => 0
  | ⟨_, patterns, _⟩ :: rest => sizeList patterns + sizeCaptures rest

end

theorem sizeList_append (rs ss : List Rule) : sizeList (rs ++ ss) = sizeList rs + sizeList ss := by
  induction rs with
  | nil => simp [sizeList]
  | cons r rest ih => simp [sizeList, ih]; omega

theorem sizeList_flatten_captures (captures : List (Capture Rule)) :
    sizeList (captures.map (·.patterns)).flatten = sizeCaptures captures := by
  induction captures with
  | nil => rfl
  | cons c rest ih =>
    rw [List.map_cons, List.flatten_cons, sizeList_append, ih]
    rfl

/-- A rule counts itself and its children. -/
theorem size_eq (r : Rule) : r.size = sizeList r.children + 1 := by
  cases r with
  | reference => rfl
  | leaf r => simp [children, innerLists, sizeList_flatten_captures, size]
  | region r =>
    simp only [children, innerLists, List.flatten_append, sizeList_append,
      sizeList_flatten_captures, size]
    simp
  | group r => simp [children, innerLists, size]

end TextMate.Rule
