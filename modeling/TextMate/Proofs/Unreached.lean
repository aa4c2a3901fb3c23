import TextMate.Proofs.Renaming

/-! Two grammars that differ only in entries that their patterns do not reach. -/
namespace TextMate

namespace Compaction

variable {counts : UseCounts} {s s' t t' : State}

/-- The states differ at most in entries that are not in use. -/
structure Alike (counts : UseCounts) (s t : State) : Prop where
  get?_eq : ∀ name, counts.get name ≠ 0 → t.repository.get? name = s.repository.get? name
  pinned : t.pinned = s.pinned
  inlined : t.inlined = s.inlined

section Moves

variable (h : Alike counts s t)
include h

theorem Alike.pin (name : String) : Alike counts (pin name s) (pin name t) where
  get?_eq := h.get?_eq
  pinned := congrArg (name :: ·) h.pinned
  inlined := h.inlined

theorem Alike.takeOut (name : String) : Alike counts (takeOut name s) (takeOut name t) where
  get?_eq n hn := by
    show Table.get? (Table.erase _ _) _ = Table.get? (Table.erase _ _) _
    rw [Table.get?_erase, Table.get?_erase, h.get?_eq n hn]
  pinned := h.pinned
  inlined := h.inlined

theorem Alike.putBack (name : String) (body : Rule) :
    Alike counts (putBack name body s) (putBack name body t) where
  get?_eq n hn := by
    show Table.get? (Table.insert _ _ _) _ = Table.get? (Table.insert _ _ _) _
    rw [Table.get?_insert, Table.get?_insert, h.get?_eq n hn]
  pinned := congrArg (List.filter _) h.pinned
  inlined := h.inlined

theorem Alike.inline (name : String) :
    Alike counts { s with inlined := s.inlined ++ [name] }
      { t with inlined := t.inlined ++ [name] } where
  get?_eq := h.get?_eq
  pinned := h.pinned
  inlined := congrArg (· ++ [name]) h.inlined

end Moves

section Derivations

variable {active names : List String} {rules left left' : List Rule}

/-- Of an entry in use both states have the same body. -/
theorem Alike.body_eq {name : String} {body body' : Rule} (h : Alike counts s t)
    (hused : counts.get name ≠ 0) (hb : s.repository.get? name = some body)
    (hb' : t.repository.get? name = some body') : body' = body := by
  rw [h.get?_eq name hused, hb] at hb'
  exact (Option.some.inj hb').symm

section Inversion

variable {r : Rule} {rest : List Rule} {name : String} {tag : Option String}

theorem Rewrites.inside_cases (h : Rewrites counts active (r :: rest) s left s')
    (href : r.reference? = none) :
    ∃ r' rest' s₁, left = r' :: rest' ∧ r'.withoutChildren = r.withoutChildren ∧
      Rewrites counts active r.children s r'.children s₁ ∧
      Rewrites counts active rest s₁ rest' s' := by
  cases h with
  | inside _ hnode hchildren hrest => exact ⟨_, _, _, rfl, hnode, hchildren, hrest⟩
  | kept => cases href
  | pinned => cases href
  | restored => cases href
  | inlined => cases href

theorem Rewrites.kept_cases
    (h : Rewrites counts active (.reference (.entry name) tag :: rest) s left s')
    (hone : counts.get name ≠ 1) :
    ∃ rest', left = .reference (.entry name) tag :: rest' ∧
      Rewrites counts active rest s rest' s' := by
  cases h with
  | inside href => cases href
  | kept _ hrest => exact ⟨_, rfl, hrest⟩
  | pinned hone' => exact absurd hone' hone
  | restored hone' => exact absurd hone' hone
  | inlined hone' => exact absurd hone' hone

theorem Rewrites.pinned_cases
    (h : Rewrites counts active (.reference (.entry name) tag :: rest) s left s')
    (hone : counts.get name = 1) (hactive : name ∈ active) :
    ∃ rest', left = .reference (.entry name) tag :: rest' ∧
      Rewrites counts active rest (pin name s) rest' s' := by
  cases h with
  | inside href => cases href
  | kept hone' => exact absurd hone hone'
  | pinned _ _ hrest => exact ⟨_, rfl, hrest⟩
  | restored _ hactive' => exact absurd hactive hactive'
  | inlined _ hactive' => exact absurd hactive hactive'

/-- The body of an entry used once is entered, and then it is put back or it is not. -/
theorem Rewrites.enter_cases
    (h : Rewrites counts active (.reference (.entry name) tag :: rest) s left s')
    (hone : counts.get name = 1) (hactive : name ∉ active) :
    ∃ body body' s₁ rest', s.repository.get? name = some body ∧
      Rewrites counts (name :: active) [body] (takeOut name s) [body'] s₁ ∧
      (name ∈ s₁.pinned ∧ left = .reference (.entry name) tag :: rest' ∧
          Rewrites counts active rest (putBack name body' s₁) rest' s' ∨
        name ∉ s₁.pinned ∧ left = body' :: rest' ∧
          Rewrites counts active rest { s₁ with inlined := s₁.inlined ++ [name] } rest' s') := by
  cases h with
  | inside href => cases href
  | kept hone' => exact absurd hone hone'
  | pinned _ hactive' => exact absurd hactive' hactive
  | restored _ _ hb hbody hpinned hrest =>
    exact ⟨_, _, _, _, hb, hbody, .inl ⟨hpinned, rfl, hrest⟩⟩
  | inlined _ _ hb hbody hpinned hrest =>
    exact ⟨_, _, _, _, hb, hbody, .inr ⟨hpinned, rfl, hrest⟩⟩

end Inversion

/-- The rewriting is determined by the entries in use. -/
theorem Rewrites.alike (h : Rewrites counts active rules s left s')
    (h' : Rewrites counts active rules t left' t') (hst : Alike counts s t) :
    left' = left ∧ Alike counts s' t' := by
  -- Which branch the second derivation takes is decided by the counts, the active names and the
  -- pinned ones, so it takes that of the first.
  induction h generalizing t left' t' with
  | nil =>
    cases h'
    exact ⟨rfl, hst⟩
  | inside href hnode hchildren hrest ihchildren ihrest =>
    obtain ⟨r', rest', t₁, rfl, hnode', hchildren', hrest'⟩ := h'.inside_cases href
    obtain ⟨heq, hst₁⟩ := ihchildren hchildren' hst
    obtain ⟨rfl, hst₂⟩ := ihrest hrest' hst₁
    have hr := Rule.ext_children (hnode'.trans hnode.symm) heq
    exact ⟨by rw [hr], hst₂⟩
  | kept hone hrest ihrest =>
    obtain ⟨rest', rfl, hrest'⟩ := h'.kept_cases hone
    obtain ⟨rfl, hst₁⟩ := ihrest hrest' hst
    exact ⟨rfl, hst₁⟩
  | pinned hone hactive hrest ihrest =>
    obtain ⟨rest', rfl, hrest'⟩ := h'.pinned_cases hone hactive
    obtain ⟨rfl, hst₁⟩ := ihrest hrest' (hst.pin _)
    exact ⟨rfl, hst₁⟩
  | restored hone hactive hb hbody hpinned hrest ihbody ihrest =>
    obtain ⟨body, body', t₁, rest', hb', hbody', hend⟩ := h'.enter_cases hone hactive
    obtain rfl := hst.body_eq (by omega) hb hb'
    obtain ⟨heq, hst₁⟩ := ihbody hbody' (hst.takeOut _)
    obtain rfl := List.singleton_inj.1 heq
    rcases hend with ⟨-, rfl, hrest'⟩ | ⟨hpinned', -⟩
    · obtain ⟨rfl, hst₂⟩ := ihrest hrest' (hst₁.putBack _ _)
      exact ⟨rfl, hst₂⟩
    · exact absurd (hst₁.pinned ▸ hpinned) hpinned'
  | inlined hone hactive hb hbody hpinned hrest ihbody ihrest =>
    obtain ⟨body, body', t₁, rest', hb', hbody', hend⟩ := h'.enter_cases hone hactive
    obtain rfl := hst.body_eq (by omega) hb hb'
    obtain ⟨heq, hst₁⟩ := ihbody hbody' (hst.takeOut _)
    obtain rfl := List.singleton_inj.1 heq
    rcases hend with ⟨hpinned', -⟩ | ⟨-, rfl, hrest'⟩
    · exact absurd (hst₁.pinned ▸ hpinned') hpinned
    · obtain ⟨rfl, hst₂⟩ := ihrest hrest' (hst₁.inline _)
      exact ⟨rfl, hst₂⟩

theorem Visits.alike (h : Visits counts names s s') (h' : Visits counts names t t')
    (hst : Alike counts s t) (hused : ∀ name ∈ names, counts.get name ≠ 0) :
    Alike counts s' t' := by
  induction h generalizing t t' with
  | nil =>
    cases h'
    exact hst
  | gone hb hrest ih =>
    obtain ⟨hname, hnames⟩ := List.forall_mem_cons.1 hused
    cases h' with
    | gone _ hrest' => exact ih hrest' hst hnames
    | settled hb' =>
      rw [hst.get?_eq _ hname, hb] at hb'
      cases hb'
  | settled hb hbody hrest ih =>
    obtain ⟨hname, hnames⟩ := List.forall_mem_cons.1 hused
    cases h' with
    | gone hb' =>
      rw [hst.get?_eq _ hname, hb] at hb'
      cases hb'
    | settled hb' hbody' hrest' =>
      obtain rfl := hst.body_eq hname hb hb'
      obtain ⟨heq, hst₁⟩ := hbody.alike hbody' (hst.takeOut _)
      obtain rfl := List.singleton_inj.1 heq
      exact ih hrest' (hst₁.putBack _ _) hnames

end Derivations

section Passes

variable {patterns left left' : List Rule} {repository other : Repository} {c c' : Compaction}

/-- The entries in use are visited in the same order. -/
theorem filter_keys_congr
    (hagree : ∀ name, counts.get name ≠ 0 → other.get? name = repository.get? name) :
    (other.keys.filter fun name => 0 < counts.get name) =
      repository.keys.filter fun name => 0 < counts.get name := by
  rw [← Table.keys_filter (fun name => 0 < counts.get name) other,
    ← Table.keys_filter (fun name => 0 < counts.get name) repository]
  refine Table.keys_congr fun name => ?_
  rw [Table.keys_filter, Table.keys_filter, List.mem_filter, List.mem_filter]
  refine and_congr_left fun hused => ?_
  have hpos : 0 < counts.get name := of_decide_eq_true hused
  rw [Table.mem_keys_iff, Table.mem_keys_iff, hagree name (by omega)]

theorem pass_alike
    (hagree : ∀ name, counts.get name ≠ 0 → other.get? name = repository.get? name)
    (h : (pass counts patterns repository).run s = .ok (left, s'))
    (h' : (pass counts patterns other).run t = .ok (left', t')) (hst : Alike counts s t) :
    left' = left ∧ Alike counts s' t' := by
  obtain ⟨s₁, hpatterns, hentries⟩ := pass_eq_ok h
  obtain ⟨t₁, hpatterns', hentries'⟩ := pass_eq_ok h'
  rw [filter_keys_congr hagree] at hentries'
  obtain ⟨heq, hst₁⟩ := hpatterns.alike hpatterns' hst
  refine ⟨heq, hentries.alike hentries' hst₁ fun name hname => ?_⟩
  have hpos : 0 < counts.get name := of_decide_eq_true (List.mem_filter.1 hname).2
  omega

/-- Entries that are not in use leave no trace in what compaction leaves and inlines. -/
theorem ofCounts_congr
    (hagree : ∀ name, counts.get name ≠ 0 → other.get? name = repository.get? name)
    (hc : ofCounts counts patterns repository = .ok c)
    (hc' : ofCounts counts patterns other = .ok c') :
    c'.patterns = c.patterns ∧ c'.repository = c.repository ∧ c'.inlined = c.inlined := by
  obtain ⟨s, hrun, hrepository, hinlined, -⟩ := ofCounts_eq_ok hc
  obtain ⟨t, hrun', hrepository', hinlined', -⟩ := ofCounts_eq_ok hc'
  have hstart : Alike counts { repository := repository } { repository := other } :=
    ⟨hagree, rfl, rfl⟩
  obtain ⟨hpatterns, hst⟩ := pass_alike hagree hrun hrun' hstart
  refine ⟨hpatterns, ?_, by rw [hinlined', hinlined, hst.inlined]⟩
  rw [hrepository', hrepository]
  refine Table.ext_get? fun name => ?_
  rw [Table.get?_filter, Table.get?_filter]
  by_cases hused : counts.get name = 0
  · simp [hused]
  · rw [hst.get?_eq name hused]

end Passes

end Compaction

namespace Repository

variable {repository other : Repository} {patterns : List Rule}
  (hagree : ∀ name, repository.Reachable patterns name → other.get? name = repository.get? name)
include hagree

/-- The walk meets nothing but the names reached. -/
theorem walk_congr : other.walk patterns = repository.walk patterns :=
  walkFrom_congr fun _ hn => hagree _ (reachable_of_mem_walk hn)

theorem countUses_congr : other.countUses patterns = repository.countUses patterns := by
  unfold countUses
  rw [walk_congr hagree]

end Repository

namespace Grammar

/--
Both runs stop at the same missing name, or both leave the same grammar behind, with reports that
differ at most in what they say of the entries before and of those that are not used.
-/
def RunsAlike (g h : Grammar) : Prop :=
  (∃ name, (g.run .none).result = .error (.unresolved name) ∧
    (h.run .none).result = .error (.unresolved name)) ∨
  ∃ report report', (g.run .none).result = .ok report ∧ (h.run .none).result = .ok report' ∧
    (h.run .none).grammar = (g.run .none).grammar ∧
    report' = { report with
      findings := report'.findings
      entriesBefore := report'.entriesBefore
      pruned := report'.pruned }

/--
Entries that the patterns do not reach do not influence a run, whatever they include and wherever
they stand in name order. Without patterns both runs stop before anything is counted.
-/
theorem run_unreached (g : Grammar) (other : Repository) (hwritable : g.Writable)
    (hother : ∀ key ∈ other.keys, IsWritable key)
    (hagree : ∀ name, g.repository.Reachable g.patterns name →
      other.get? name = g.repository.get? name) :
    (g.patterns = [] → (g.run .none).result = .error .noPatterns ∧
      (run { g with repository := other } .none).result = .error .noPatterns) ∧
    (g.patterns ≠ [] → g.RunsAlike { g with repository := other }) := by
  refine ⟨fun hpatterns => ?_, fun hpatterns => ?_⟩
  · rw [run_of_nil .none hpatterns, run_of_nil (g := { g with repository := other }) .none hpatterns]
    exact ⟨rfl, rfl⟩
  · have hcheck : g.check = .ok () := check_eq_ok hpatterns hwritable
    have hcheck' : check { g with repository := other } = .ok () := check_eq_ok hpatterns hother
    have hcount' := Repository.countUses_congr hagree
    cases hcount : g.repository.countUses g.patterns with
    | error e =>
      obtain ⟨name, rfl, -⟩ := unresolved_of_countUses hcount
      rw [hcount] at hcount'
      obtain ⟨-, hresult⟩ := run_of_countUses_error .none hcheck hcount
      obtain ⟨-, hresult'⟩ := run_of_countUses_error .none hcheck' hcount'
      exact .inl ⟨name, hresult, hresult'⟩
    | ok counts =>
      rw [hcount] at hcount'
      have hcounted := Repository.counted_of_countUses hcount
      have hused : ∀ name, counts.get name ≠ 0 → other.get? name = g.repository.get? name :=
        fun name hname => hagree name ((hcounted.pos_iff name).1 (Nat.pos_of_ne_zero hname))
      obtain ⟨c, hc⟩ := exists_compaction hcount
      obtain ⟨c', hc'⟩ := exists_compaction (g := { g with repository := other }) hcount'
      obtain ⟨hgrammar, hresult⟩ := run_of_countUses .none hcheck hcount hc
      obtain ⟨hgrammar', hresult'⟩ := run_of_countUses .none hcheck' hcount' hc'
      obtain ⟨hleft, hkept, hinlined⟩ := Compaction.ofCounts_congr hused hc hc'
      rw [if_neg fun hdenied => Bool.false_ne_true hdenied.1] at hresult hresult'
      refine .inr ⟨_, _, hresult, hresult', ?_, ?_⟩
      · rw [hgrammar, hgrammar', hleft, hkept]
      · simp only [Report.ofCompaction, hkept, hinlined]

/-- A dead entry that includes itself and an entry used once takes the place of another. -/
def circularIdle : Repository :=
  (circular.repository.erase "stale").insert "idle"
    (Rule.alternatives ["#idle", "#argument", "#nowhere"])

theorem run_unreached_circularIdle :
    (circular.Writable ∧ (∀ key ∈ circularIdle.keys, IsWritable key) ∧
      ∀ name, circular.repository.Reachable circular.patterns name →
        circularIdle.get? name = circular.repository.get? name) ∧
    circular.patterns ≠ [] ∧ circular.RunsAlike { circular with repository := circularIdle } := by
  have hwritable : circular.Writable := by decide +kernel
  have hother : ∀ key ∈ circularIdle.keys, IsWritable key := by decide +kernel
  have hcount : circular.repository.countUses circular.patterns = .ok .circular := by cbv
  have hcounted := Repository.counted_of_countUses hcount
  have hused : ∀ name ∈ UseCounts.circular.table.keys,
      circularIdle.get? name = circular.repository.get? name := by decide +kernel
  have hagree : ∀ name, circular.repository.Reachable circular.patterns name →
      circularIdle.get? name = circular.repository.get? name := by
    intro name hreach
    have hpos := (hcounted.pos_iff name).2 hreach
    exact hused name (UseCounts.mem_keys_table.2 (by omega))
  have hpatterns : circular.patterns ≠ [] := by decide
  obtain ⟨-, halike⟩ := run_unreached circular circularIdle hwritable hother hagree
  exact ⟨⟨hwritable, hother, hagree⟩, hpatterns, halike hpatterns⟩

/-- Without patterns and without entries. -/
def blank : Grammar where
  name := "Blank"
  scopeName := "source.blank"
  patterns := []
  repository := .empty

/-- Two runs over the same grammar need end neither with a missing name nor with a report. -/
theorem not_runsAlike_blank :
    (blank.Writable ∧ (∀ key ∈ blank.repository.keys, IsWritable key) ∧
      ∀ name, blank.repository.Reachable blank.patterns name →
        blank.repository.get? name = blank.repository.get? name) ∧
    ¬ blank.RunsAlike { blank with repository := blank.repository } := by
  have hresult : (blank.run .none).result = .error .noPatterns := rfl
  refine ⟨⟨nofun, nofun, fun _ _ => rfl⟩, ?_⟩
  rintro (⟨name, hunresolved, -⟩ | ⟨report, -, hok, -⟩)
  · rw [hresult] at hunresolved
    cases hunresolved
  · rw [hresult] at hok
    cases hok

end Grammar

end TextMate
