import TextMate.Proofs.ByteOrder
import TextMate.Proofs.Result

/-! How a run over a grammar ends. -/
namespace TextMate

/-- A letter or `_` and then letters, digits, `_`, `.` and `-`, all of them ASCII. -/
def IsWritable (name : String) : Prop :=
  ∃ c rest, name.toList = c :: rest ∧ c ∈ Set.Icc 'A' 'Z' ∪ Set.Icc 'a' 'z' ∪ {'_'} ∧
    ∀ d ∈ rest, d ∈ Set.Icc 'A' 'Z' ∪ Set.Icc 'a' 'z' ∪ Set.Icc '0' '9' ∪ {'_', '.', '-'}

theorem isNameStart_iff {c : Char} :
    isNameStart c = true ↔ c ∈ Set.Icc 'A' 'Z' ∪ Set.Icc 'a' 'z' ∪ {'_'} := by
  simp [isNameStart, Char.isAlpha, Char.isUpper, Char.isLower, Char.le_def]
  tauto

theorem isNamePart_iff {c : Char} :
    isNamePart c = true ↔
      c ∈ Set.Icc 'A' 'Z' ∪ Set.Icc 'a' 'z' ∪ Set.Icc '0' '9' ∪ {'_', '.', '-'} := by
  simp [isNamePart, Char.isAlphanum, Char.isAlpha, Char.isUpper, Char.isLower, Char.isDigit,
    Char.le_def]
  tauto

theorem isRuleName_iff {name : String} : isRuleName name = true ↔ IsWritable name := by
  unfold isRuleName IsWritable
  cases name.toList with
  | nil => simp
  | cons c rest =>
    simp only [Bool.and_eq_true, List.all_eq_true, isNameStart_iff, isNamePart_iff]
    constructor
    · rintro ⟨hc, hrest⟩
      exact ⟨c, rest, rfl, hc, hrest⟩
    · rintro ⟨d, rest', heq, hd, hrest⟩
      cases heq
      exact ⟨hd, hrest⟩

instance : DecidablePred IsWritable := fun _ => decidable_of_iff _ isRuleName_iff

namespace Grammar

/-- An include can be written for every entry. -/
def Writable (g : Grammar) : Prop := ∀ key ∈ g.repository.keys, IsWritable key

instance (g : Grammar) : Decidable g.Writable :=
  inferInstanceAs (Decidable (∀ key ∈ g.repository.keys, IsWritable key))

/-- The first entry, in the order of bytes, for which no include can be written. -/
def IsFirstUnwritable (g : Grammar) (key : String) : Prop :=
  key ∈ g.repository.keys ∧ ¬ IsWritable key ∧
    ∀ other ∈ g.repository.keys, ¬ IsWritable other → Text.bytes key ≤ Text.bytes other

/-- Every name that the patterns reach has an entry. -/
def Resolved (g : Grammar) : Prop :=
  ∀ name, g.repository.Reachable g.patterns name → name ∈ g.repository.keys

section Stages

variable {g : Grammar} {deny : FindingSet}

theorem find?_ascending {keys : List String} {p : String → Bool} {key : String}
    (hkeys : keys.Pairwise (· < ·)) (h : keys.find? p = some key) :
    key ∈ keys ∧ p key = true ∧ ∀ other ∈ keys, p other = true → ¬ other < key := by
  obtain ⟨hp, before, after, rfl, hbefore⟩ := List.find?_eq_some_iff_append.1 h
  refine ⟨by simp, hp, fun other hother hpo hlt => ?_⟩
  obtain ⟨-, hafter, -⟩ := List.pairwise_append.1 hkeys
  rcases List.mem_append.1 hother with hmem | hmem
  · have hnot := hbefore other hmem
    rw [hpo] at hnot
    cases hnot
  · rcases List.mem_cons.1 hmem with rfl | hmem
    · exact String.lt_irrefl _ hlt
    · exact String.lt_asymm hlt ((List.pairwise_cons.1 hafter).1 other hmem)

/-- The check refuses a grammar without patterns, and then one with a key of the wrong form. -/
theorem check_cases (g : Grammar) :
    g.patterns = [] ∧ g.check = .error .noPatterns ∨
    g.patterns ≠ [] ∧ (∃ key, g.IsFirstUnwritable key ∧ g.check = .error (.invalidName key)) ∨
    g.patterns ≠ [] ∧ g.Writable ∧ g.check = .ok () := by
  unfold check
  by_cases hpatterns : g.patterns = []
  · refine .inl ⟨hpatterns, ?_⟩
    rw [hpatterns]
    rfl
  · have hempty : g.patterns.isEmpty = false := List.isEmpty_eq_false_iff.2 hpatterns
    rw [hempty]
    simp only [Bool.false_eq_true, if_false]
    cases hfind : g.repository.keys.find? fun name => !isRuleName name with
    | none =>
      refine .inr (.inr ⟨hpatterns, fun key hkey => ?_, rfl⟩)
      have hname := List.find?_eq_none.1 hfind key hkey
      exact isRuleName_iff.1 (by simpa using hname)
    | some key =>
      obtain ⟨hmem, hbad, hfirst⟩ := find?_ascending g.repository.keys_ascending hfind
      refine .inr (.inl ⟨hpatterns, key, ⟨hmem, ?_, fun other hother hno => ?_⟩, rfl⟩)
      · rw [← isRuleName_iff]
        simpa using hbad
      · have hle := hfirst other hother (by rw [← isRuleName_iff] at hno; simpa using hno)
        rw [Text.lt_iff_bytes_lt] at hle
        exact hle

theorem check_eq_ok (hpatterns : g.patterns ≠ []) (hwritable : g.Writable) : g.check = .ok () := by
  rcases check_cases g with ⟨hempty, -⟩ | ⟨-, key, hkey, -⟩ | ⟨-, -, hcheck⟩
  · exact absurd hempty hpatterns
  · exact absurd (hwritable key hkey.1) hkey.2.1
  · exact hcheck

/-- The count fails at a name that is reached. -/
theorem unresolved_of_countUses {repository : Repository} {patterns : List Rule} {e : GrammarError}
    (h : repository.countUses patterns = .error e) :
    ∃ name, e = .unresolved name ∧ repository.Reachable patterns name ∧
      repository.get? name = none := by
  simp only [Repository.countUses] at h
  split at h
  · rename_i name hmissing
    cases h
    obtain ⟨hmem, hnone⟩ := Repository.missing_walkFrom repository [] patterns hmissing
    exact ⟨name, rfl, Repository.reachable_of_mem_walk hmem, hnone⟩
  · cases h

/-- Given the counts of the grammar itself, compaction does not fail. -/
theorem exists_compaction {counts : UseCounts}
    (h : g.repository.countUses g.patterns = .ok counts) :
    ∃ c, Compaction.ofCounts counts g.patterns g.repository = .ok c := by
  have hcounted := Repository.counted_of_countUses h
  obtain ⟨inlined, hin⟩ := hcounted.inlinable.exists_inlines
  obtain ⟨s, hrun, -⟩ := Compaction.run_pass hcounted hin
  exact ⟨_, Compaction.ofCounts_of_run hrun⟩

theorem completes_afterCount {counts : UseCounts} {c : Compaction}
    (h : Compaction.ofCounts counts g.patterns g.repository = .ok c) :
    (Run.afterCount g deny counts).completes = true := by
  unfold Run.afterCount Run.completes
  simp only [h]
  split_ifs <;> rfl

theorem resolved_of_countUses {counts : UseCounts}
    (h : g.repository.countUses g.patterns = .ok counts) : g.Resolved := by
  intro name hreach
  have hcounted := Repository.counted_of_countUses h
  obtain ⟨body, hb⟩ := hcounted.entry name ((hcounted.pos_iff name).2 hreach)
  exact Table.mem_keys_of_get? hb

/-- The stages of a run, each with what stops the run there. -/
theorem run_cases (g : Grammar) (deny : FindingSet) :
    g.patterns = [] ∧ (g.run deny).result = .error .noPatterns ∧ (g.run deny).grammar = g ∨
    g.patterns ≠ [] ∧ (∃ key, g.IsFirstUnwritable key ∧
      (g.run deny).result = .error (.invalidName key) ∧ (g.run deny).grammar = g) ∨
    g.patterns ≠ [] ∧ g.Writable ∧ (∃ name, g.repository.Reachable g.patterns name ∧
      name ∉ g.repository.keys ∧ (g.run deny).result = .error (.unresolved name) ∧
      (g.run deny).grammar = g) ∨
    g.patterns ≠ [] ∧ g.Writable ∧ g.Resolved ∧ (g.run deny).completes = true := by
  rcases check_cases g with ⟨hpatterns, hcheck⟩ | ⟨hpatterns, key, hkey, hcheck⟩ |
      ⟨hpatterns, hwritable, hcheck⟩
  · have hrun : g.run deny = ⟨g, .error .noPatterns, []⟩ := by
      unfold run
      rw [hcheck]
    rw [hrun]
    exact .inl ⟨hpatterns, rfl, rfl⟩
  · have hrun : g.run deny = ⟨g, .error (.invalidName key), []⟩ := by
      unfold run
      rw [hcheck]
    rw [hrun]
    exact .inr (.inl ⟨hpatterns, key, hkey, rfl, rfl⟩)
  · refine .inr (.inr ?_)
    unfold run
    rw [hcheck]
    cases hcount : g.repository.countUses g.patterns with
    | error e =>
      obtain ⟨name, rfl, hreach, hnone⟩ := unresolved_of_countUses hcount
      have habsent : name ∉ g.repository.keys := by
        rw [Table.mem_keys_iff, hnone]
        exact Bool.false_ne_true
      exact .inl ⟨hpatterns, hwritable, name, hreach, habsent, rfl, rfl⟩
    | ok counts =>
      obtain ⟨c, hc⟩ := exists_compaction hcount
      exact .inr ⟨hpatterns, hwritable, resolved_of_countUses hcount,
        completes_afterCount hc⟩

theorem result_ne_error (h : (g.run deny).completes = true) {e : GrammarError}
    (he : ∀ findings, e ≠ .denied findings) : (g.run deny).result ≠ .error e := by
  intro hresult
  rw [completes_error hresult he] at h
  cases h

theorem accepted_of_completes (h : (g.run deny).completes = true) :
    g.patterns ≠ [] ∧ g.Writable := by
  rcases run_cases g deny with ⟨-, hresult, -⟩ | ⟨-, key, -, hresult, -⟩ |
      ⟨-, -, name, -, -, hresult, -⟩ | ⟨hpatterns, hwritable, -, -⟩
  · exact absurd hresult (result_ne_error h nofun)
  · exact absurd hresult (result_ne_error h nofun)
  · exact absurd hresult (result_ne_error h nofun)
  · exact ⟨hpatterns, hwritable⟩

end Stages

/--
The error of a run tells which of its stages has refused the grammar, and a refused grammar stays as
it is. Compaction refuses nothing, so a run that gets so far completes.
-/
theorem run_result (g : Grammar) (deny : FindingSet) :
    ((g.run deny).result = .error .noPatterns ↔ g.patterns = []) ∧
    ((∃ key, (g.run deny).result = .error (.invalidName key)) ↔
      g.patterns ≠ [] ∧ ¬ g.Writable) ∧
    (∀ key, (g.run deny).result = .error (.invalidName key) → g.IsFirstUnwritable key) ∧
    ((∃ name, (g.run deny).result = .error (.unresolved name)) ↔
      g.patterns ≠ [] ∧ g.Writable ∧ ¬ g.Resolved) ∧
    (∀ name, (g.run deny).result = .error (.unresolved name) →
      g.repository.Reachable g.patterns name ∧ name ∉ g.repository.keys) ∧
    ((g.run deny).completes = true ↔ g.patterns ≠ [] ∧ g.Writable ∧ g.Resolved) ∧
    ((g.run deny).completes = false → (g.run deny).grammar = g) ∧
    ∀ counts, g.repository.countUses g.patterns = .ok counts →
      ∃ c, Compaction.ofCounts counts g.patterns g.repository = .ok c := by
  have hcompact : ∀ counts, g.repository.countUses g.patterns = .ok counts →
      ∃ c, Compaction.ofCounts counts g.patterns g.repository = .ok c :=
    fun counts => exists_compaction
  rcases run_cases g deny with ⟨hpatterns, hresult, hsame⟩ |
      ⟨hpatterns, key, hkey, hresult, hsame⟩ |
      ⟨hpatterns, hwritable, name, hreach, habsent, hresult, hsame⟩ |
      ⟨hpatterns, hwritable, hresolved, hcompletes⟩
  · have hstopped := completes_error hresult nofun
    rw [hresult, hstopped]
    simpa [hpatterns, hsame] using hcompact
  · have hstopped := completes_error hresult nofun
    have hnot : ¬ g.Writable := fun hall => hkey.2.1 (hall key hkey.1)
    rw [hresult, hstopped]
    simpa [hpatterns, hnot, hsame, hkey] using hcompact
  · have hstopped := completes_error hresult nofun
    have hnot : ¬ g.Resolved := fun hall => habsent (hall name hreach)
    rw [hresult, hstopped]
    simpa [hpatterns, hwritable, hnot, hsame, hreach, habsent] using hcompact
  · simpa [hpatterns, hwritable, hresolved, hcompletes, result_ne_error hcompletes] using hcompact

end Grammar

end TextMate
