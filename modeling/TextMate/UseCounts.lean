import TextMate.Table

/-! How often each name is used. -/
namespace TextMate

/-- A name that is never used has no entry. -/
structure UseCounts where
  table : Table Nat
  positive : ∀ e ∈ table.entries, 0 < e.2

namespace UseCounts

@[ext] theorem ext {c d : UseCounts} (h : c.table = d.table) : c = d := by
  cases c; cases d; cases h; rfl

instance : DecidableEq UseCounts := fun c d =>
  decidable_of_iff (c.table = d.table) ⟨ext, fun h => h ▸ rfl⟩

def empty : UseCounts := ⟨.empty, nofun⟩

instance : Inhabited UseCounts := ⟨empty⟩

/-- Zero for a name that is never used. -/
def get (c : UseCounts) (name : String) : Nat := (c.table.get? name).getD 0

theorem get_empty (n : String) : empty.get n = 0 := rfl

/-- The number of names used at least once. -/
def size (c : UseCounts) : Nat := c.table.size

def isEmpty (c : UseCounts) : Bool := c.table.isEmpty

/-- In name order. -/
def toList (c : UseCounts) : List (String × Nat) := c.table.entries

def set (c : UseCounts) (name : String) (count : Nat) (h : 0 < count) : UseCounts where
  table := c.table.insert name count
  positive e he := by
    rcases Table.mem_insertEntry he with rfl | he
    · exact h
    · exact c.positive e he

theorem get_set (c : UseCounts) (name n : String) (count : Nat) (h : 0 < count) :
    (c.set name count h).get n = if n = name then count else c.get n := by
  simp only [get, set, Table.get?_insert]
  split <;> rfl

/-- One more use of a name. -/
def addUse (c : UseCounts) (name : String) : UseCounts :=
  c.set name (c.get name + 1) (Nat.succ_pos _)

theorem get_addUse (c : UseCounts) (name n : String) :
    (c.addUse name).get n = c.get n + if n = name then 1 else 0 := by
  rw [addUse, get_set]
  split
  · rename_i h
    rw [h]
  · rfl

/-- Zeros are left out first; then a later pair replaces an earlier one. -/
def ofList (pairs : List (String × Nat)) : UseCounts :=
  pairs.foldl (fun c e => if h : 0 < e.2 then c.set e.1 e.2 h else c) empty

/-- The counts of a sequence of uses. -/
def ofNames (names : List String) : UseCounts := names.foldl addUse empty

theorem get_foldl_addUse (c : UseCounts) (names : List String) (n : String) :
    (names.foldl addUse c).get n = c.get n + names.count n := by
  induction names generalizing c with
  | nil => rfl
  | cons name rest ih =>
    rw [List.foldl_cons, ih, get_addUse, List.count_cons, Nat.add_assoc]
    by_cases h : n = name
    · simp [h, Nat.add_comm]
    · simp [h, Ne.symm h]

theorem get_ofNames (names : List String) (n : String) : (ofNames names).get n = names.count n := by
  rw [ofNames, get_foldl_addUse, get_empty, Nat.zero_add]

/-- Each use with the count that it brings its name to. -/
def tally (before : UseCounts) : List String → List (String × Nat)
  | [] => []
  | name :: rest => (name, before.get name + 1) :: tally (before.addUse name) rest

end UseCounts

end TextMate
