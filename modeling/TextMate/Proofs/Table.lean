import Mathlib
import TextMate.Table

/-! Sums over the entries of a table, what determines a table, and tables made from pairs. -/
namespace TextMate.Table

variable {α : Type} {t : Table α} {name : String} {value : α}

/-- The sum of the weights of all entries. -/
def total (weight : String → α → Nat) (t : Table α) : Nat :=
  (t.entries.map fun e => weight e.1 e.2).sum

theorem size_eq_total (t : Table α) : t.size = t.total fun _ _ => 1 := by
  simp [size, total]

theorem total_congr {v w : String → α → Nat}
    (h : ∀ name value, t.get? name = some value → v name value = w name value) :
    t.total v = t.total w := by
  refine congrArg List.sum (List.map_congr_left fun e he => ?_)
  exact h e.1 e.2 (get?_eq_some_iff.2 he)

theorem total_eq_zero {w : String → α → Nat}
    (h : ∀ name value, t.get? name = some value → w name value = 0) : t.total w = 0 := by
  rw [total_congr h, total]
  simp

theorem sum_filter_ne {w : String → α → Nat} {l : List (String × α)}
    (hl : l.Pairwise (fun a b => a.1 < b.1)) (h : (name, value) ∈ l) :
    (l.map fun e => w e.1 e.2).sum =
      ((l.filter fun e => e.1 ≠ name).map fun e => w e.1 e.2).sum + w name value := by
  induction l with
  | nil => cases h
  | cons e rest ih =>
    obtain ⟨he, hr⟩ := List.pairwise_cons.1 hl
    rcases List.mem_cons.1 h with rfl | h
    · have hrest : (rest.filter fun e => e.1 ≠ name) = rest := by
        refine List.filter_eq_self.2 fun a ha => ?_
        have : a.1 ≠ name := fun hn => String.lt_irrefl name (hn ▸ he a ha)
        simpa using this
      rw [List.filter_cons_of_neg (by simp), hrest, List.map_cons, List.sum_cons, Nat.add_comm]
    · have hlt : e.1 < name := he _ h
      have hne : e.1 ≠ name := fun hn => String.lt_irrefl name (hn ▸ hlt)
      rw [List.filter_cons_of_pos (by simpa using hne), List.map_cons, List.map_cons,
        List.sum_cons, List.sum_cons, ih hr h, Nat.add_assoc]

/-- Without an entry the total is smaller by the weight of the entry. -/
theorem total_erase (w : String → α → Nat) (h : t.get? name = some value) :
    t.total w = (t.erase name).total w + w name value :=
  sum_filter_ne t.ascending (get?_eq_some_iff.1 h)

theorem le_total (w : String → α → Nat) (h : t.get? name = some value) :
    w name value ≤ t.total w := by
  rw [total_erase w h]
  exact Nat.le_add_left _ _

theorem sum_insertEntry {w : String → α → Nat} {l : List (String × α)}
    (h : l.lookup name = none) :
    ((insertEntry name value l).map fun e => w e.1 e.2).sum =
      (l.map fun e => w e.1 e.2).sum + w name value := by
  induction l with
  | nil => simp [insertEntry]
  | cons e rest ih =>
    obtain ⟨n, v⟩ := e
    rw [lookup_cons_eq_ite] at h
    simp only [insertEntry]
    split_ifs at h ⊢ with h₁ h₂
    · simp only [List.map_cons, List.sum_cons]
      omega
    · simp only [List.map_cons, List.sum_cons, ih h]
      omega

theorem total_insert (w : String → α → Nat) (h : t.get? name = none) :
    (t.insert name value).total w = t.total w + w name value :=
  sum_insertEntry h

theorem sum_filter {keep : String → α → Bool} {w : String → α → Nat} (l : List (String × α)) :
    ((l.filter fun e => keep e.1 e.2).map fun e => w e.1 e.2).sum =
      (l.map fun e => if keep e.1 e.2 then w e.1 e.2 else 0).sum := by
  induction l with
  | nil => rfl
  | cons e rest ih =>
    rw [List.filter_cons, List.map_cons, List.sum_cons, ← ih]
    split
    · rw [List.map_cons, List.sum_cons]
    · rw [Nat.zero_add]

theorem total_filter (keep : String → α → Bool) (w : String → α → Nat) (t : Table α) :
    (t.filter keep).total w = t.total fun name v => if keep name v then w name v else 0 :=
  sum_filter t.entries

theorem mem_keys_of_get? (h : t.get? name = some value) : name ∈ t.keys :=
  mem_keys_iff.2 (by rw [h]; rfl)

theorem keys_nodup (t : Table α) : t.keys.Nodup :=
  t.keys_ascending.imp fun {_ _} hlt => String.ne_of_lt hlt

theorem count_keys (t : Table α) (n : String) :
    t.keys.count n = if (t.get? n).isSome then 1 else 0 := by
  rw [t.keys_nodup.count]
  exact if_congr mem_keys_iff rfl rfl

theorem keys_filter (keep : String → Bool) (t : Table α) :
    (t.filter fun n _ => keep n).keys = t.keys.filter keep := by
  rw [keys.eq_def t, List.filter_map]
  rfl

theorem size_le_of_keys_subset {β : Type} {t' : Table β} (h : t.keys ⊆ t'.keys) :
    t.size ≤ t'.size := by
  have hlength := (t.keys_nodup.subperm h).length_le
  simpa [keys, size] using hlength

theorem keys_congr {β : Type} {t' : Table β} (h : ∀ n, n ∈ t.keys ↔ n ∈ t'.keys) :
    t.keys = t'.keys := by
  have hirrefl : Std.Irrefl fun a b : String => a < b := ⟨String.lt_irrefl⟩
  have hantisymm : Std.Antisymm fun a b : String => a < b :=
    ⟨fun _ _ hab hba => absurd hba (String.lt_asymm hab)⟩
  exact t.keys_ascending.eq_of_mem_iff t'.keys_ascending h

/-- A table is known by what it has under each name. -/
theorem ext_get? {t' : Table α} (h : ∀ n, t.get? n = t'.get? n) : t = t' := by
  have hirrefl : Std.Irrefl fun a b : String × α => a.1 < b.1 := ⟨fun a => String.lt_irrefl a.1⟩
  have hantisymm : Std.Antisymm fun a b : String × α => a.1 < b.1 :=
    ⟨fun _ _ hab hba => absurd hba (String.lt_asymm hab)⟩
  refine ext (t.ascending.eq_of_mem_iff t'.ascending fun e => ?_)
  rw [← get?_eq_some_iff, ← get?_eq_some_iff, h]

theorem filter_eq_self {keep : String → α → Bool}
    (h : ∀ name value, t.get? name = some value → keep name value = true) : t.filter keep = t :=
  ext (List.filter_eq_self.2 fun e he => h e.1 e.2 (get?_eq_some_iff.2 he))

theorem get?_of_erase {name' : String} (h : (t.erase name').get? name = some value) :
    t.get? name = some value := by
  rw [get?_erase] at h
  split at h
  · cases h
  · exact h

theorem size_erase (h : t.get? name = some value) : t.size = (t.erase name).size + 1 := by
  simp only [size_eq_total]
  exact total_erase _ h

theorem size_insert (h : t.get? name = none) : (t.insert name value).size = t.size + 1 := by
  simp only [size_eq_total]
  exact total_insert _ h

section Pairs

variable {pairs : List (String × α)}

theorem lookup_eq_some_iff_of_nodup (h : (pairs.map (·.1)).Nodup) :
    pairs.lookup name = some value ↔ (name, value) ∈ pairs := by
  rw [List.lookup_eq_some_iff]
  constructor
  · rintro ⟨before, after, rfl, -⟩
    exact List.mem_append_right before List.mem_cons_self
  · intro hmem
    obtain ⟨before, after, rfl⟩ := List.append_of_mem hmem
    refine ⟨before, after, rfl, fun e he => ?_⟩
    rw [List.map_append, List.map_cons, List.nodup_middle] at h
    have hother : name ∉ before.map (·.1) :=
      fun hn => (List.nodup_cons.1 h).1 (List.mem_append_left _ hn)
    have hne : name ≠ e.1 := fun heq => hother (heq ▸ List.mem_map_of_mem he)
    simpa using hne

/-- The last pair of a name is the one that counts. -/
theorem get?_foldl_insert (pairs : List (String × α)) (t : Table α) (name : String) :
    (pairs.foldl (fun t e => t.insert e.1 e.2) t).get? name =
      (pairs.reverse.lookup name).or (t.get? name) := by
  induction pairs generalizing t with
  | nil => rfl
  | cons e rest ih =>
    rw [List.foldl_cons, ih, get?_insert, List.reverse_cons, List.lookup_append,
      Option.or_assoc, lookup_cons_eq_ite]
    by_cases h : name = e.1
    · rw [if_pos h, if_pos h, Option.some_or]
    · rw [if_neg h, if_neg h, List.lookup_nil, Option.none_or]

theorem get?_ofList (pairs : List (String × α)) (name : String) :
    (ofList pairs).get? name = pairs.reverse.lookup name := by
  rw [ofList, get?_foldl_insert, get?_empty, Option.or_none]

theorem lookup_eq_find? (pairs : List (String × α)) (name : String) :
    pairs.lookup name = (pairs.find? fun e => e.1 = name).map (·.2) := by
  induction pairs with
  | nil => rfl
  | cons e rest ih =>
    rw [lookup_cons_eq_ite, List.find?_cons]
    by_cases h : name = e.1
    · simp [h]
    · simp [h, Ne.symm h, ih]

theorem lookup_reverse (pairs : List (String × α)) (name : String) :
    pairs.reverse.lookup name = (pairs.filter fun e => e.1 = name).getLast?.map (·.2) := by
  rw [lookup_eq_find?, List.getLast?_filter]

/-- Among pairs with different names none replaces another. -/
theorem get?_ofList_of_nodup (h : (pairs.map (·.1)).Nodup) (name : String) :
    (ofList pairs).get? name = pairs.lookup name := by
  have hreverse : (pairs.reverse.map (·.1)).Nodup := by
    rw [List.map_reverse]
    exact List.nodup_reverse.2 h
  refine Option.ext fun value => ?_
  rw [get?_ofList, lookup_eq_some_iff_of_nodup hreverse, lookup_eq_some_iff_of_nodup h,
    List.mem_reverse]

/-- The entries of a table make it again, in whatever order they stand. -/
theorem ofList_of_perm (h : pairs.Perm t.entries) : ofList pairs = t := by
  have hnames : (pairs.map (·.1)).Perm t.keys := h.map _
  have hnodup : (pairs.map (·.1)).Nodup := hnames.nodup_iff.2 t.keys_nodup
  refine ext_get? fun name => Option.ext fun value => ?_
  rw [get?_ofList_of_nodup hnodup, lookup_eq_some_iff_of_nodup hnodup, get?_eq_some_iff, h.mem_iff]

theorem lookup_reverse_entries (t : Table α) (name : String) :
    t.entries.reverse.lookup name = t.get? name := by
  rw [← get?_ofList, ofList_of_perm (List.Perm.refl t.entries)]

end Pairs

end TextMate.Table
