import TextMate.Grammar
import TextMate.GrammarError
import TextMate.Log
import TextMate.UseCounts

/-!
Compaction of a grammar: an entry used once moves to its place of use, an entry never used is
removed, and all others stay behind their includes.
-/
namespace TextMate

/-- What a pass changes as it goes. -/
structure Compaction.State where
  repository : Repository
  /-- Active entries that were met again inside their own bodies, and so must stay. -/
  pinned : List String := []
  /-- Every name that was ever pinned. -/
  guarded : List String := []
  /-- Newest last. -/
  inlined : List String := []

abbrev Compaction.Step := StateT Compaction.State (Except GrammarError)

structure Compaction where
  patterns : List Rule
  repository : Repository
  /-- In the order in which they were inlined. -/
  inlined : List String
  /-- In name order. -/
  pruned : List String
  /-- In name order. -/
  findings : List Finding
deriving DecidableEq

namespace Compaction

/-- The entry must stay, because its name was met inside its own body. -/
def pin (name : String) (s : State) : State :=
  { s with pinned := name :: s.pinned, guarded := name :: s.guarded }

/-- The entry has its compacted body again and is no longer pinned. -/
def putBack (name : String) (body : Rule) (s : State) : State :=
  { s with
    repository := s.repository.insert name body
    pinned := s.pinned.filter (· ≠ name) }

/-- The entry leaves the repository until its body is compacted or for good. -/
def takeOut (name : String) (s : State) : State :=
  { s with repository := s.repository.erase name }

/-- The finding about an entry that is left after the pass. -/
def findingOf? (counts : UseCounts) (name : String) : Option Finding :=
  match counts.get name with
  | 0 => some ⟨.unused, name⟩
  | 1 => some ⟨.singleUse, name⟩
  | _ => none

section Pass

/-! A pass tells what it does. Where that goes and how a pass fails is up to the monad. -/

variable {n : Type → Type} [Monad n] (log : Event → n Unit) (counts : UseCounts)

/--
What stands in the place of an include, given how the entry of a name used once is inlined. Inside
its own body a name stays an include.
-/
def replace (active : List String) (inlined : String → Option String → StateT State n Rule) :
    Include → Option String → StateT State n Rule
  | .external text, tag => return .reference (.external text) tag
  | .entry name, tag => do
    if counts.get name ≠ 1 then
      return .reference (.entry name) tag
    else if name ∈ active then
      modify (pin name)
      return .reference (.entry name) tag
    else
      inlined name tag

/-- The event comes before the body stands in the place of the include. -/
def recordM (name : String) : StateT State n Unit := do
  log (.inlinedRule name)
  modify fun s => { s with inlined := s.inlined ++ [name] }

variable [MonadExceptOf GrammarError n]

/-- The compacted body stands for the include, unless the name was pinned meanwhile. -/
def inlineEntryM (settle : Rule → StateT State n Rule) (name : String) (tag : Option String) :
    StateT State n Rule := do
  match (← get).repository.get? name with
  | none => throw (.unresolved name)
  | some body =>
    modify (takeOut name)
    let body ← settle body
    if name ∈ (← get).pinned then
      modify (putBack name body)
      return .reference (.entry name) tag
    else
      recordM log name
      return body

/--
The bodies being compacted are those of the active names. Each of them is out of the repository, so
`depth` may start as the number of entries: at zero no entry is left to inline.
-/
def expandM : (depth : Nat) → (active : List String) → Include → Option String →
    StateT State n Rule
  | 0, active => replace counts active fun name _ => throw (.unresolved name)
  | depth + 1, active => replace counts active fun name =>
    inlineEntryM log (Rule.mapIncludesM (expandM depth (name :: active))) name

/-- Compacts the body of one entry in place, unless the entry was inlined before. -/
def settleEntryM (depth : Nat) (name : String) : StateT State n Unit := do
  match (← get).repository.get? name with
  | none => return
  | some body =>
    modify (takeOut name)
    let body ← body.mapIncludesM (expandM log counts depth [name])
    modify (putBack name body)

/-- The patterns first, then the entries in use in name order. -/
def passM (patterns : List Rule) (repository : Repository) : StateT State n (List Rule) := do
  let depth := repository.size
  let patterns ← Rule.mapIncludesListM (expandM log counts depth []) patterns
  (repository.keys.filter fun name => 0 < counts.get name).forM (settleEntryM log counts depth)
  return patterns

/-- The counts need not be those of the grammar. -/
def ofCountsM (patterns : List Rule) (repository : Repository) : n Compaction := do
  let (patterns, s) ← (passM log counts patterns repository).run { repository }
  let kept := s.repository.filter fun name _ => counts.get name ≠ 0
  let pruned := s.repository.keys.filter fun name => counts.get name = 0
  log (.finishedCompaction s.inlined.length pruned.length kept.size)
  return {
    patterns
    repository := kept
    inlined := s.inlined
    pruned
    findings := s.repository.keys.filterMap (findingOf? counts) }

end Pass

/-- Nothing is kept of what a pass tells. -/
def silent (_ : Event) : Except GrammarError Unit := .ok ()

abbrev inlineEntry (settle : Rule → Step Rule) : String → Option String → Step Rule :=
  inlineEntryM silent settle

abbrev expand (counts : UseCounts) :
    (depth : Nat) → (active : List String) → Include → Option String → Step Rule :=
  expandM silent counts

abbrev settleEntry (counts : UseCounts) : (depth : Nat) → (name : String) → Step Unit :=
  settleEntryM silent counts

abbrev pass (counts : UseCounts) : List Rule → Repository → Step (List Rule) :=
  passM silent counts

def ofCounts (counts : UseCounts) : List Rule → Repository → Except GrammarError Compaction :=
  ofCountsM silent counts

end Compaction

end TextMate
