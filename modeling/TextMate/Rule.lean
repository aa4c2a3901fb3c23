/-! The rules of a grammar, and the includes by which they refer to each other. -/
namespace TextMate

inductive Include where
  /-- An entry of the grammar's own repository, written `#name`. -/
  | entry (name : String)
  /-- The grammar itself or another grammar's scope; never resolved here. -/
  | external (text : String)
deriving DecidableEq, Inhabited

namespace Include

def ofText (text : String) : Include :=
  match text.toList with
  | '#' :: name => .entry (.ofList name)
  | _ => .external text

def text : Include → String
  | .entry name => "#" ++ name
  | .external text => text

end Include

/--
What is applied to one capture group. In a list of captures `skip` counts the groups between the
previous capture and this one, so every list is in group order and names no group twice.
-/
structure Capture (ρ : Type) where
  skip : Nat := 0
  patterns : List ρ := []
  name : Option String := none
deriving DecidableEq, Inhabited

/-- A rule that matches one pattern. -/
structure Leaf (ρ : Type) where
  pattern : String
  captures : List (Capture ρ) := []
  name : Option String := none
deriving DecidableEq, Inhabited

/-- A rule between two delimiters; `captures` applies to both of them. -/
structure Region (ρ : Type) where
  opening : String
  openingCaptures : List (Capture ρ) := []
  closing : String
  closingCaptures : List (Capture ρ) := []
  captures : List (Capture ρ) := []
  contentName : Option String := none
  patterns : List ρ := []
  name : Option String := none
deriving DecidableEq, Inhabited

/-- An ordered list of alternatives. -/
structure Group (ρ : Type) where
  patterns : List ρ := []
  name : Option String := none
deriving DecidableEq, Inhabited

inductive Rule where
  | reference (target : Include) (name : Option String)
  | leaf (rule : Leaf Rule)
  | region (rule : Region Rule)
  | group (rule : Group Rule)
deriving Inhabited

namespace Capture

variable {ρ : Type}

/-- The groups of a list of captures whose first possible group is `base`. -/
def groups (base : Nat) : List (Capture ρ) → List Nat
  | [] => []
  | c :: rest => (base + c.skip) :: groups (base + c.skip + 1) rest

/-- Adds a capture for a group at or after `base`, in place of an earlier one for that group. -/
def insertFrom (base group : Nat) (patterns : List ρ) (name : Option String) :
    List (Capture ρ) → List (Capture ρ)
  | [] => [⟨group - base, patterns, name⟩]
  | c :: rest =>
    if group < base + c.skip then
      ⟨group - base, patterns, name⟩ :: { c with skip := base + c.skip - group - 1 } :: rest
    else if group = base + c.skip then ⟨c.skip, patterns, name⟩ :: rest
    else c :: insertFrom (base + c.skip + 1) group patterns name rest

def insert (group : Nat) (patterns : List ρ) (name : Option String) :
    List (Capture ρ) → List (Capture ρ) :=
  insertFrom 0 group patterns name

/-- Captures that only assign scope names. -/
def naming (names : List (Nat × String)) : List (Capture ρ) :=
  names.foldl (fun captures e => insert e.1 [] (some e.2) captures) []

end Capture

namespace Rule

/-- An include without a name of its own. -/
def including (text : String) : Rule := .reference (.ofText text) none

def includingAll (texts : List String) : List Rule := texts.map including

/-- A group of nothing but includes. -/
def alternatives (texts : List String) : Rule := .group { patterns := includingAll texts }

/-- The entry this rule stands for. -/
def reference? : Rule → Option String
  | .reference (.entry name) _ => some name
  | _ => none

def name : Rule → Option String
  | .reference _ name => name
  | .leaf r => r.name
  | .region r => r.name
  | .group r => r.name

mutual

def decEq : (a b : Rule) → Decidable (a = b)
  | .reference t n, .reference t' n' =>
    decidable_of_iff (t = t' ∧ n = n') (by simp)
  | .leaf ⟨p, cs, n⟩, .leaf ⟨p', cs', n'⟩ =>
    have := decEqCaptures cs cs'
    decidable_of_iff (p = p' ∧ cs = cs' ∧ n = n') (by simp)
  | .region ⟨o, oc, c, cc, cs, cn, ps, n⟩, .region ⟨o', oc', c', cc', cs', cn', ps', n'⟩ =>
    have := decEqCaptures oc oc'
    have := decEqCaptures cc cc'
    have := decEqCaptures cs cs'
    have := decEqList ps ps'
    decidable_of_iff
      (o = o' ∧ oc = oc' ∧ c = c' ∧ cc = cc' ∧ cs = cs' ∧ cn = cn' ∧ ps = ps' ∧ n = n') (by simp)
  | .group ⟨ps, n⟩, .group ⟨ps', n'⟩ =>
    have := decEqList ps ps'
    decidable_of_iff (ps = ps' ∧ n = n') (by simp)
  | .reference .., .leaf _ | .reference .., .region _ | .reference .., .group _ => isFalse nofun
  | .leaf _, .reference .. | .leaf _, .region _ | .leaf _, .group _ => isFalse nofun
  | .region _, .reference .. | .region _, .leaf _ | .region _, .group _ => isFalse nofun
  | .group _, .reference .. | .group _, .leaf _ | .group _, .region _ => isFalse nofun

def decEqList : (a b : List Rule) → Decidable (a = b)
  | [], [] => isTrue rfl
  | [], _ :: _ | _ :: _, [] => isFalse nofun
  | r :: rs, r' :: rs' =>
    have := decEq r r'
    have := decEqList rs rs'
    decidable_of_iff (r = r' ∧ rs = rs') (by simp)

def decEqCaptures : (a b : List (Capture Rule)) → Decidable (a = b)
  | [], [] => isTrue rfl
  | [], _ :: _ | _ :: _, [] => isFalse nofun
  | ⟨s, ps, n⟩ :: cs, ⟨s', ps', n'⟩ :: cs' =>
    have := decEqList ps ps'
    have := decEqCaptures cs cs'
    decidable_of_iff ((s = s' ∧ ps = ps' ∧ n = n') ∧ cs = cs') (by simp)

end

instance : DecidableEq Rule := decEq

end Rule

end TextMate
