import TextMate.Grammar
import TextMate.GrammarError
import TextMate.UseCounts

/-! The walk through all rules that a pattern list reaches, and the use counts it gives. -/
namespace TextMate

/-- The names of the includes met, in order; `missing` is the last of them if it has no entry. -/
structure Walk where
  names : List String
  missing : Option String := none
deriving DecidableEq, Inhabited

def Walk.meet (w : Walk) (name : String) : Walk := { w with names := name :: w.names }

namespace Repository

/-- The number of rules in the bodies of entries that are still to be entered. -/
def unseenSize (seen : List String) : List (String × Rule) → Nat
  | [] => 0
  | (name, body) :: rest => (if name ∈ seen then 0 else body.size) + unseenSize seen rest

theorem unseenSize_cons_le (name : String) (seen : List String) (entries : List (String × Rule)) :
    unseenSize (name :: seen) entries ≤ unseenSize seen entries := by
  induction entries with
  | nil => exact Nat.le_refl 0
  | cons e rest ih => grind [unseenSize]

/-- Entering a body moves its rules from the unseen ones to the pending ones. -/
theorem unseenSize_cons_add_size_le {seen : List String} {name : String} {body : Rule}
    {entries : List (String × Rule)} (hs : name ∉ seen) (he : (name, body) ∈ entries) :
    unseenSize (name :: seen) entries + body.size ≤ unseenSize seen entries := by
  induction entries with
  | nil => cases he
  | cons e rest ih =>
    rcases List.mem_cons.1 he with rfl | he
    · grind [unseenSize, unseenSize_cons_le name seen rest]
    · grind [unseenSize]

/--
Enters the body of an entry at the first include of its name and only there. The rules still to be
walked wait in one list, the body in front.
-/
def walkFrom (repository : Repository) (seen : List String) : List Rule → Walk
  | [] => ⟨[], none⟩
  | .reference (.external _) _ :: pending => repository.walkFrom seen pending
  | .reference (.entry name) _ :: pending =>
    if name ∈ seen then (repository.walkFrom seen pending).meet name
    else
      match _h : repository.get? name with
      | none => ⟨[name], some name⟩
      | some body => (repository.walkFrom (name :: seen) (body :: pending)).meet name
  | .leaf r :: pending => repository.walkFrom seen ((Rule.leaf r).children ++ pending)
  | .region r :: pending => repository.walkFrom seen ((Rule.region r).children ++ pending)
  | .group r :: pending => repository.walkFrom seen ((Rule.group r).children ++ pending)
termination_by pending => unseenSize seen repository.entries + Rule.sizeList pending
decreasing_by
  · simp [Rule.sizeList, Rule.size]
  · simp [Rule.sizeList, Rule.size]
  · have := unseenSize_cons_add_size_le ‹_› (Table.get?_eq_some_iff.1 ‹_›)
    simp only [Rule.sizeList, Rule.size]
    omega
  all_goals
    simp only [Rule.sizeList_append, Rule.sizeList, Rule.size_eq]
    omega

section Steps

variable {repository : Repository} {seen : List String} {pending : List Rule} {name : String}
  {tag : Option String}

theorem walkFrom_inside {r : Rule} (href : r.reference? = none) :
    repository.walkFrom seen (r :: pending) = repository.walkFrom seen (r.children ++ pending) := by
  cases r with
  | reference target tag =>
    cases target with
    | entry name => cases href
    | external text => rw [walkFrom]; rfl
  | leaf r => rw [walkFrom]
  | region r => rw [walkFrom]
  | group r => rw [walkFrom]

theorem walkFrom_seen (hs : name ∈ seen) :
    repository.walkFrom seen (.reference (.entry name) tag :: pending) =
      (repository.walkFrom seen pending).meet name := by
  rw [walkFrom, if_pos hs]

theorem walkFrom_missing (hs : name ∉ seen) (hb : repository.get? name = none) :
    repository.walkFrom seen (.reference (.entry name) tag :: pending) = ⟨[name], some name⟩ := by
  rw [walkFrom, if_neg hs]
  split
  · rfl
  · rename_i body hsome
    rw [hb] at hsome
    cases hsome

theorem walkFrom_enter {body : Rule} (hs : name ∉ seen) (hb : repository.get? name = some body) :
    repository.walkFrom seen (.reference (.entry name) tag :: pending) =
      (repository.walkFrom (name :: seen) (body :: pending)).meet name := by
  rw [walkFrom, if_neg hs]
  split
  · rename_i hnone
    rw [hb] at hnone
    cases hnone
  · rename_i body' hsome
    rw [hb] at hsome
    cases hsome
    rfl

/--
To follow a walk: a rule that is no include of an entry gives way to its children, and an include
ends the walk, or is passed by, or gives way to the body of its entry.
-/
@[elab_as_elim]
theorem walkFrom_induction (repository : Repository) {P : List String → List Rule → Prop}
    (nil : ∀ seen, P seen [])
    (inside : ∀ seen r pending, r.reference? = none → P seen (r.children ++ pending) →
      P seen (r :: pending))
    (again : ∀ seen name tag pending, name ∈ seen → P seen pending →
      P seen (.reference (.entry name) tag :: pending))
    (missing : ∀ seen name tag pending, name ∉ seen → repository.get? name = none →
      P seen (.reference (.entry name) tag :: pending))
    (enter : ∀ seen name tag pending body, name ∉ seen → repository.get? name = some body →
      P (name :: seen) (body :: pending) → P seen (.reference (.entry name) tag :: pending))
    (seen : List String) (pending : List Rule) : P seen pending := by
  fun_induction walkFrom repository seen pending with
  | case1 seen => exact nil seen
  | case2 seen text tag pending ih => exact inside _ _ _ rfl ih
  | case3 seen name tag pending hs ih => exact again _ _ _ _ hs ih
  | case4 seen name tag pending hs hb => exact missing _ _ _ _ hs hb
  | case5 seen name tag pending hs body hb ih => exact enter _ _ _ _ _ hs hb ih
  | case6 seen r pending ih => exact inside _ _ _ rfl ih
  | case7 seen r pending ih => exact inside _ _ _ rfl ih
  | case8 seen r pending ih => exact inside _ _ _ rfl ih

end Steps

def walk (repository : Repository) (patterns : List Rule) : Walk := repository.walkFrom [] patterns

/-- Counts every include that the patterns reach, an include in a shared body once. -/
def countUses (repository : Repository) (patterns : List Rule) : Except GrammarError UseCounts :=
  let w := repository.walk patterns
  match w.missing with
  | some name => .error (.unresolved name)
  | none => .ok (.ofNames w.names)

end Repository

end TextMate
