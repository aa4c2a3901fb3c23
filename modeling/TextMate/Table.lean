/-! Tables from names to values, listed in ascending order of their names. -/
namespace TextMate

/-- Strings are ordered by code points, so no name occurs twice. -/
structure Table (α : Type) where
  entries : List (String × α)
  ascending : entries.Pairwise (fun a b => a.1 < b.1)

namespace Table

variable {α : Type}

@[ext] theorem ext {s t : Table α} (h : s.entries = t.entries) : s = t := by
  cases s; cases t; cases h; rfl

instance [DecidableEq α] : DecidableEq (Table α) := fun s t =>
  decidable_of_iff (s.entries = t.entries) ⟨ext, fun h => h ▸ rfl⟩

def empty : Table α := ⟨[], .nil⟩

instance : Inhabited (Table α) := ⟨empty⟩

def keys (t : Table α) : List String := t.entries.map (·.1)

def size (t : Table α) : Nat := t.entries.length

def isEmpty (t : Table α) : Bool := t.entries.isEmpty

def get? (t : Table α) (name : String) : Option α := t.entries.lookup name

theorem get?_empty (n : String) : (empty : Table α).get? n = none := rfl

theorem lookup_cons_eq_ite (n m : String) (v : α) (l : List (String × α)) :
    ((m, v) :: l).lookup n = if n = m then some v else l.lookup n := by
  rw [List.lookup_cons]
  by_cases h : n = m
  · simp [h]
  · simp [h, beq_false_of_ne h]

theorem lookup_eq_some_iff_mem {l : List (String × α)} (h : l.Pairwise (fun a b => a.1 < b.1))
    {n : String} {v : α} : l.lookup n = some v ↔ (n, v) ∈ l := by
  induction l with
  | nil => simp
  | cons head rest ih =>
    obtain ⟨m, w⟩ := head
    obtain ⟨hm, hr⟩ := List.pairwise_cons.1 h
    rw [lookup_cons_eq_ite, List.mem_cons]
    by_cases hn : n = m
    · subst hn
      have : (n, v) ∉ rest := fun hv => String.lt_irrefl n (hm _ hv)
      simp [this, eq_comm]
    · simp [hn, ih hr]

theorem get?_eq_some_iff {t : Table α} {n : String} {v : α} :
    t.get? n = some v ↔ (n, v) ∈ t.entries :=
  lookup_eq_some_iff_mem t.ascending

theorem keys_ascending (t : Table α) : t.keys.Pairwise (· < ·) :=
  List.pairwise_map.2 t.ascending

theorem mem_keys_iff {t : Table α} {n : String} : n ∈ t.keys ↔ (t.get? n).isSome := by
  constructor
  · intro h
    obtain ⟨⟨m, v⟩, hm, rfl⟩ := List.mem_map.1 h
    rw [get?_eq_some_iff.2 hm]
    rfl
  · intro h
    obtain ⟨v, hv⟩ := Option.isSome_iff_exists.1 h
    exact List.mem_map.2 ⟨(n, v), get?_eq_some_iff.1 hv, rfl⟩

/-- An entry of the same name is replaced. -/
def insertEntry (name : String) (value : α) : List (String × α) → List (String × α)
  | [] => [(name, value)]
  | (n, v) :: rest =>
    if name < n then (name, value) :: (n, v) :: rest
    else if name = n then (name, value) :: rest
    else (n, v) :: insertEntry name value rest

theorem lookup_insertEntry (name n : String) (value : α) (l : List (String × α)) :
    (insertEntry name value l).lookup n = if n = name then some value else l.lookup n := by
  induction l with
  | nil => exact lookup_cons_eq_ite ..
  | cons head rest ih =>
    obtain ⟨m, v⟩ := head
    simp only [insertEntry]
    split
    · exact lookup_cons_eq_ite ..
    · split
      · rename_i heq
        subst heq
        simp only [lookup_cons_eq_ite]
        split <;> rfl
      · rename_i hne
        simp only [lookup_cons_eq_ite, ih]
        by_cases h : n = m
        · subst h
          simp [Ne.symm hne]
        · simp [h]

theorem mem_insertEntry {name : String} {value : α} {l : List (String × α)} {e : String × α}
    (h : e ∈ insertEntry name value l) : e = (name, value) ∨ e ∈ l := by
  induction l with
  | nil => exact .inl (by simpa [insertEntry] using h)
  | cons head rest ih =>
    obtain ⟨n, v⟩ := head
    simp only [insertEntry] at h
    split at h
    · simpa using h
    · split at h
      · rcases List.mem_cons.1 h with h | h
        · exact .inl h
        · exact .inr (List.mem_cons_of_mem _ h)
      · rcases List.mem_cons.1 h with h | h
        · exact .inr (h ▸ List.mem_cons_self)
        · exact (ih h).imp_right (List.mem_cons_of_mem _)

theorem pairwise_insertEntry {name : String} {value : α} {l : List (String × α)}
    (h : l.Pairwise (fun a b => a.1 < b.1)) :
    (insertEntry name value l).Pairwise (fun a b => a.1 < b.1) := by
  induction l with
  | nil => simp [insertEntry]
  | cons head rest ih =>
    obtain ⟨n, v⟩ := head
    obtain ⟨hn, hr⟩ := List.pairwise_cons.1 h
    simp only [insertEntry]
    split
    · rename_i hlt
      refine List.pairwise_cons.2 ⟨fun e he => ?_, h⟩
      rcases List.mem_cons.1 he with rfl | he
      · exact hlt
      · exact String.lt_trans hlt (hn e he)
    · rename_i hlt
      split
      · rename_i heq
        exact List.pairwise_cons.2 ⟨fun e he => heq ▸ hn e he, hr⟩
      · rename_i hne
        refine List.pairwise_cons.2 ⟨fun e he => ?_, ih hr⟩
        rcases mem_insertEntry he with rfl | he
        · exact Decidable.byContradiction fun h =>
            hne (String.le_antisymm (String.not_lt.1 h) (String.not_lt.1 hlt))
        · exact hn e he

def insert (t : Table α) (name : String) (value : α) : Table α :=
  ⟨insertEntry name value t.entries, pairwise_insertEntry t.ascending⟩

theorem get?_insert (t : Table α) (name n : String) (value : α) :
    (t.insert name value).get? n = if n = name then some value else t.get? n :=
  lookup_insertEntry name n value t.entries

def filter (t : Table α) (keep : String → α → Bool) : Table α :=
  ⟨t.entries.filter fun e => keep e.1 e.2, t.ascending.filter _⟩

theorem get?_filter (t : Table α) (keep : String → α → Bool) (n : String) :
    (t.filter keep).get? n = (t.get? n).filter (keep n) := by
  refine Option.ext fun v => ?_
  rw [get?_eq_some_iff, Option.filter_eq_some_iff, get?_eq_some_iff]
  exact List.mem_filter

def erase (t : Table α) (name : String) : Table α := t.filter fun n _ => n ≠ name

theorem get?_erase (t : Table α) (name n : String) :
    (t.erase name).get? n = if n = name then none else t.get? n := by
  rw [erase, get?_filter]
  by_cases h : n = name
  · simp [h]
  · cases t.get? n <;> simp [h]

/-- A later pair replaces an earlier one of the same name. -/
def ofList (pairs : List (String × α)) : Table α :=
  pairs.foldl (fun t e => t.insert e.1 e.2) empty

end Table

end TextMate
