import TextMate.GrammarError
import TextMate.Proofs.ByteOrder

/-! Findings have one order, whatever the order in which they were made. -/
namespace TextMate.Finding

/-- By the bytes of the names, and of two about one name the unused entry first. -/
def Precedes (a b : Finding) : Prop :=
  Text.bytes a.rule < Text.bytes b.rule ∨
    a.rule = b.rule ∧ (a.kind = .unused ∨ b.kind = .singleUse)

section Order

variable {a b c : Finding}

theorem precedes_iff :
    a.Precedes b ↔ a.rule < b.rule ∨ a.rule = b.rule ∧ (a.kind = .unused ∨ b.kind = .singleUse) := by
  rw [Precedes, ← Text.lt_iff_bytes_lt]

theorem rank_le_rank_iff {k l : FindingKind} : k.rank ≤ l.rank ↔ k = .unused ∨ l = .singleUse := by
  cases k <;> cases l <;> decide

theorem le_iff : le a b = true ↔ a.Precedes b := by
  rw [le, precedes_iff]
  by_cases hrule : a.rule = b.rule
  · have hnot : ¬ a.rule < b.rule := hrule ▸ String.lt_irrefl _
    rw [if_pos hrule, decide_eq_true_eq, rank_le_rank_iff]
    simp [hrule]
  · rw [if_neg hrule, decide_eq_true_eq]
    simp [hrule]

theorem Precedes.trans (hab : a.Precedes b) (hbc : b.Precedes c) : a.Precedes c := by
  rw [precedes_iff] at hab hbc ⊢
  rcases hab with hab | ⟨hab, hkind⟩
  · rcases hbc with hbc | ⟨hbc, -⟩
    · exact .inl (String.lt_trans hab hbc)
    · exact .inl (hbc ▸ hab)
  · rcases hbc with hbc | ⟨hbc, hkind'⟩
    · exact .inl (hab ▸ hbc)
    · refine .inr ⟨hab.trans hbc, ?_⟩
      rw [← rank_le_rank_iff] at hkind hkind' ⊢
      omega

theorem Precedes.antisymm (hab : a.Precedes b) (hba : b.Precedes a) : a = b := by
  rw [precedes_iff] at hab hba
  rcases hab with hab | ⟨hrule, hab⟩
  · rcases hba with hba | ⟨hrule, -⟩
    · exact absurd hba (String.lt_asymm hab)
    · exact absurd hab (hrule ▸ String.lt_irrefl _)
  · rcases hba with hba | ⟨-, hba⟩
    · exact absurd hba (hrule ▸ String.lt_irrefl _)
    · obtain ⟨kind, rule⟩ := a
      obtain ⟨kind', rule'⟩ := b
      obtain rfl : rule = rule' := hrule
      cases kind <;> cases kind' <;> simp_all

theorem precedes_total (a b : Finding) : a.Precedes b ∨ b.Precedes a := by
  rw [precedes_iff, precedes_iff]
  rcases lt_trichotomy a.rule b.rule with hlt | hrule | hgt
  · exact .inl (.inl hlt)
  · rw [← rank_le_rank_iff, ← rank_le_rank_iff]
    rcases Nat.le_total a.kind.rank b.kind.rank with hle | hle
    · exact .inl (.inr ⟨hrule, hle⟩)
    · exact .inr (.inr ⟨hrule.symm, hle⟩)
  · exact .inr (.inl hgt)

end Order

section Sorting

variable {findings findings' sorted : List Finding}

theorem sort_perm (findings : List Finding) : (sort findings).Perm findings :=
  List.mergeSort_perm _ _

theorem pairwise_sort (findings : List Finding) : (sort findings).Pairwise Precedes := by
  have htrans : ∀ a b c, le a b = true → le b c = true → le a c = true := by
    intro a b c hab hbc
    rw [le_iff] at hab hbc ⊢
    exact hab.trans hbc
  have htotal : ∀ a b, (le a b || le b a) = true := by
    intro a b
    rw [Bool.or_eq_true, le_iff, le_iff]
    exact precedes_total a b
  have hsorted : (sort findings).Pairwise fun a b => le a b = true :=
    List.pairwise_mergeSort htrans htotal findings
  exact hsorted.imp fun {_ _} hle => le_iff.1 hle

/-- There is no other way to put findings into order. -/
theorem eq_sort (hperm : sorted.Perm findings) (hsorted : sorted.Pairwise Precedes) :
    sorted = sort findings :=
  (hperm.trans (sort_perm findings).symm).eq_of_pairwise
    (fun _ _ _ _ hab hba => hab.antisymm hba) hsorted (pairwise_sort findings)

theorem sort_eq_of_perm (h : findings.Perm findings') : sort findings = sort findings' :=
  eq_sort ((sort_perm findings).trans h) (pairwise_sort findings)

/-- Findings that are picked from sorted ones are sorted. -/
theorem filter_sort (keep : Finding → Bool) (findings : List Finding) :
    (sort findings).filter keep = sort (findings.filter keep) :=
  eq_sort ((sort_perm findings).filter keep) ((pairwise_sort findings).filter keep)

theorem sort_eq_self (h : findings.Pairwise fun a b => a.rule < b.rule) :
    sort findings = findings :=
  (eq_sort (List.Perm.refl _) (h.imp fun {_ _} hlt => precedes_iff.2 (.inl hlt))).symm

/--
Findings are sorted into the only order of all of them that goes by the bytes of their names and
then by their kinds. So lists are sorted to the same list just if each finding is as often in the
one as in the other. The message that refuses sorted findings, or those of them that are denied,
depends on nothing else.
-/
theorem sort_canonical :
    (∀ findings sorted : List Finding,
      sorted = sort findings ↔ sorted.Perm findings ∧ sorted.Pairwise Precedes) ∧
    (∀ findings findings' : List Finding,
      sort findings = sort findings' ↔ findings.Perm findings') ∧
    ∃ message : Multiset Finding → String, ∀ findings : List Finding,
      (GrammarError.denied (sort findings)).message = message findings ∧
      ∀ deny : FindingSet,
        (GrammarError.denied ((sort findings).filter fun d => deny.contains d.kind)).message =
          message (findings.filter fun d => deny.contains d.kind : List Finding) := by
  refine ⟨fun findings sorted => ?_, fun findings findings' => ?_, ?_⟩
  · constructor
    · rintro rfl
      exact ⟨sort_perm findings, pairwise_sort findings⟩
    · rintro ⟨hperm, hsorted⟩
      exact eq_sort hperm hsorted
  · constructor
    · intro h
      exact (sort_perm findings).symm.trans (h ▸ sort_perm findings')
    · exact sort_eq_of_perm
  · refine ⟨Quot.lift (fun findings => (GrammarError.denied (sort findings)).message) ?_,
      fun findings => ⟨rfl, fun deny => ?_⟩⟩
    · intro findings findings' h
      rw [sort_eq_of_perm h]
    · rw [filter_sort]
      rfl

end Sorting

end TextMate.Finding
