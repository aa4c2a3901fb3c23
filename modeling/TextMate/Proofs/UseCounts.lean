import TextMate.Proofs.ByteOrder
import TextMate.Proofs.Counting

/-!
Tables of use counts. However a table is made, by counting or from pairs, it has no zero in it and
is made again from what it lists.
-/
namespace TextMate.UseCounts

/-- A table in the only form that its counts allow. -/
structure Canonical (counts : UseCounts) : Prop where
  positive : ∀ use ∈ counts.toList, 1 ≤ use.2
  ascending : counts.toList.Pairwise fun a b => Text.bytes a.1 < Text.bytes b.1
  size : Set.encard {name | 0 < counts.get name} = counts.size
  rebuilt : ofList counts.toList = counts

section Listing

variable {counts : UseCounts} {name : String} {use : String × Nat}

theorem get?_table (counts : UseCounts) (name : String) :
    counts.table.get? name = if counts.get name = 0 then none else some (counts.get name) := by
  unfold get
  cases hcount : counts.table.get? name with
  | none => rfl
  | some count =>
    have hpos := counts.positive (name, count) (Table.get?_eq_some_iff.1 hcount)
    exact (if_neg (Nat.pos_iff_ne_zero.1 hpos)).symm

theorem mem_keys_table : name ∈ counts.table.keys ↔ counts.get name ≠ 0 := by
  rw [Table.mem_keys_iff, get?_table]
  split_ifs with hzero
  · simp [hzero]
  · simp [hzero]

theorem mem_toList_iff : use ∈ counts.toList ↔ 0 < use.2 ∧ counts.get use.1 = use.2 := by
  have hentry : use ∈ counts.toList ↔ counts.table.get? use.1 = some use.2 :=
    Table.get?_eq_some_iff.symm
  rw [hentry, get?_table]
  by_cases hzero : counts.get use.1 = 0
  · rw [if_pos hzero, hzero]
    constructor
    · intro h
      cases h
    · rintro ⟨hpos, heq⟩
      omega
  · rw [if_neg hzero, Option.some_inj]
    omega

theorem names_toList_nodup (counts : UseCounts) : (counts.toList.map (·.1)).Nodup :=
  counts.table.keys_nodup

/-- The names with a count are as many as the table has entries. -/
theorem encard_used (counts : UseCounts) :
    Set.encard {name | 0 < counts.get name} = counts.size := by
  have hnames : {name | 0 < counts.get name} = (counts.table.keys.toFinset : Set String) := by
    ext name
    simp [mem_keys_table, Nat.pos_iff_ne_zero]
  have hsize : counts.table.keys.length = counts.size := List.length_map _
  rw [hnames, Set.encard_coe_eq_coe_finsetCard,
    List.toFinset_card_of_nodup counts.table.keys_nodup, hsize]

end Listing

section Pairs

variable {pairs : List (String × Nat)}

theorem table_foldl (pairs : List (String × Nat)) (counts : UseCounts) :
    (pairs.foldl (fun c e => if h : 0 < e.2 then c.set e.1 e.2 h else c) counts).table =
      (pairs.filter fun e => 0 < e.2).foldl (fun t e => t.insert e.1 e.2) counts.table := by
  induction pairs generalizing counts with
  | nil => rfl
  | cons e rest ih =>
    rw [List.foldl_cons, ih]
    by_cases hpos : 0 < e.2
    · rw [dif_pos hpos, List.filter_cons_of_pos (by simpa using hpos), List.foldl_cons]
      rfl
    · rw [dif_neg hpos, List.filter_cons_of_neg (by simpa using hpos)]

/-- The table is that of the pairs that are left without the zeros. -/
theorem table_ofList (pairs : List (String × Nat)) :
    (ofList pairs).table = Table.ofList (pairs.filter fun e => 0 < e.2) :=
  table_foldl pairs empty

/-- Wherever zeros stand among the pairs, they have no part in the table. -/
theorem ofList_filter (pairs : List (String × Nat)) :
    ofList (pairs.filter fun e => 0 < e.2) = ofList pairs := by
  refine ext ?_
  rw [table_ofList, table_ofList, List.filter_filter]
  simp

theorem get_ofList (pairs : List (String × Nat)) (name : String) :
    (ofList pairs).get name =
      ((pairs.filter fun e => e.1 = name ∧ 0 < e.2).getLast?.map (·.2)).getD 0 := by
  rw [get, table_ofList, Table.get?_ofList, Table.lookup_reverse, List.filter_filter]
  simp

theorem ofList_toList (counts : UseCounts) : ofList counts.toList = counts := by
  have hpositive : (counts.toList.filter fun e => 0 < e.2) = counts.toList :=
    List.filter_eq_self.2 fun e he => decide_eq_true (counts.positive e he)
  refine ext ?_
  rw [table_ofList, hpositive]
  exact Table.ofList_of_perm (List.Perm.refl _)

end Pairs

theorem canonical (counts : UseCounts) : counts.Canonical where
  positive := counts.positive
  ascending := counts.table.ascending.imp fun {_ _} hlt => Text.lt_iff_bytes_lt.1 hlt
  size := encard_used counts
  rebuilt := ofList_toList counts

/--
Tables made from pairs and tables of counted includes are canonical. A table from pairs has for each
name the last of its counts that is not zero, so that no zero replaces a count, and a table of
counted includes has the number of times that the walk met the name.
-/
theorem canonical_built :
    (∀ pairs : List (String × Nat),
      (ofList pairs).Canonical ∧
      (∀ name, (ofList pairs).get name =
        ((pairs.filter fun e => e.1 = name ∧ 0 < e.2).getLast?.map (·.2)).getD 0) ∧
      ofList (pairs.filter fun e => 0 < e.2) = ofList pairs) ∧
    ∀ (repository : Repository) (patterns : List Rule) (counts : UseCounts),
      repository.countUses patterns = .ok counts →
        counts.Canonical ∧
        ∀ name, counts.get name = (repository.walk patterns).names.count name :=
  ⟨fun pairs => ⟨canonical _, get_ofList pairs, ofList_filter pairs⟩,
    fun _ _ counts h => ⟨canonical counts, Repository.get_of_countUses h⟩⟩

theorem canonical_built_circular :
    Grammar.circular.repository.countUses Grammar.circular.patterns = .ok .circular ∧
    circular.Canonical ∧
    ∀ name, circular.get name =
      (Grammar.circular.repository.walk Grammar.circular.patterns).names.count name :=
  have h : Grammar.circular.repository.countUses Grammar.circular.patterns = .ok .circular := by cbv
  ⟨h, canonical_built.2 _ _ _ h⟩

end TextMate.UseCounts
