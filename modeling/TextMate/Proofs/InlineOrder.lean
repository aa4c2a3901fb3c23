import TextMate.Proofs.Classification

/-! The order in which entries are inlined: what a body includes goes before the body. -/
namespace TextMate

/-- In front of each name are all names inside it. -/
def InnerFirst (nested : String → String → Prop) (names : List String) : Prop :=
  ∀ before outer after, names = before ++ outer :: after →
    ∀ inner, nested inner outer → inner ∈ before

namespace InnerFirst

variable {nested : String → String → Prop} {names before after : List String} {outer : String}

theorem left_of_append (h : InnerFirst nested (before ++ after)) : InnerFirst nested before := by
  rintro front outer back rfl
  exact h front outer (back ++ after) (List.append_assoc _ _ _)

theorem concat (h : InnerFirst nested names) (houter : ∀ inner, nested inner outer → inner ∈ names) :
    InnerFirst nested (names ++ [outer]) := by
  intro front last back heq
  rcases List.eq_nil_or_concat' back with rfl | ⟨back, b, rfl⟩
  · obtain ⟨rfl, hlast⟩ := List.append_inj' heq rfl
    exact List.singleton_inj.1 hlast ▸ houter
  · have hfront : names ++ [outer] = (front ++ last :: back) ++ [b] := by
      rw [heq, List.append_assoc, List.cons_append]
    exact h front last back (List.append_inj' hfront rfl).1

/-- A chain from the inside out is found in its order. -/
theorem sublist (h : InnerFirst nested names) {chain : List String} (hchain : chain.IsChain nested)
    (hlast : ∀ n ∈ chain.getLast?, n ∈ names) : chain.Sublist names := by
  induction chain using List.reverseRecOn generalizing names with
  | nil => exact List.nil_sublist _
  | append_singleton chain outer ih =>
    obtain ⟨before, after, rfl⟩ := List.append_of_mem (hlast outer (by simp))
    obtain ⟨hfront, -, hnested⟩ := List.isChain_append.1 hchain
    have hinner : ∀ n ∈ chain.getLast?, n ∈ before := fun n hn =>
      h before outer after rfl n (hnested n hn outer rfl)
    have hrest : chain.Sublist before := ih h.left_of_append hfront hinner
    exact hrest.append (List.singleton_sublist.2 List.mem_cons_self)

end InnerFirst

namespace Compaction

variable {counts : UseCounts} {original : Repository}

/-- What an entry has had inside is still in its body or has been inlined. -/
structure Layered (original : Repository) (counts : UseCounts) (s : State) : Prop where
  inner : InnerFirst (original.Nested counts) s.inlined
  entries : ∀ outer body, s.repository.get? outer = some body →
    ∀ inner, original.Nested counts inner outer → inner ∈ body.includes ∨ inner ∈ s.inlined
  pinned : s.pinned ⊆ s.guarded

section Layered

variable {active names : List String} {rs rs' : List Rule} {name : String} {body : Rule}
  {s s' : State}

theorem layered_start (original : Repository) (counts : UseCounts) :
    Layered original counts { repository := original } where
  inner := by
    intro before outer after heq
    cases before <;> cases heq
  entries outer body hb inner hn := by
    obtain ⟨-, body', hb', hinner⟩ := hn
    rw [hb] at hb'
    cases hb'
    exact .inl hinner
  pinned := List.Subset.refl _

theorem Layered.takeOut (h : Layered original counts s) :
    Layered original counts (takeOut name s) where
  inner := h.inner
  entries outer body hb := h.entries outer body (Table.get?_of_erase hb)
  pinned := h.pinned

theorem Layered.putBack (h : Layered original counts s)
    (hdone : ∀ inner, original.Nested counts inner name → inner ∈ s.inlined) :
    Layered original counts (putBack name body s) where
  inner := h.inner
  entries outer body' hb inner hn := by
    unfold Compaction.putBack at hb
    rw [Table.get?_insert] at hb
    split at hb
    · rename_i heq
      exact .inr (hdone inner (heq ▸ hn))
    · exact h.entries outer body' hb inner hn
  pinned n hn := h.pinned (List.mem_of_mem_filter hn)

theorem Layered.inline (h : Layered original counts s)
    (hdone : ∀ inner, original.Nested counts inner name → inner ∈ s.inlined) :
    Layered original counts { s with inlined := s.inlined ++ [name] } where
  inner := h.inner.concat hdone
  entries outer body hb inner hn :=
    (h.entries outer body hb inner hn).imp_right (List.mem_append_left [name])
  pinned := h.pinned

theorem Rewrites.inlined_subset (h : Rewrites counts active rs s rs' s') :
    s.inlined ⊆ s'.inlined := by
  induction h with
  | nil => exact List.Subset.refl _
  | inside href hnode hchildren hrest ihchildren ihrest => exact List.Subset.trans ihchildren ihrest
  | kept hcount hrest ihrest => exact ihrest
  | pinned hcount ha hrest ihrest => exact ihrest
  | restored hcount ha hb hbody hp hrest ihbody ihrest => exact List.Subset.trans ihbody ihrest
  | inlined hcount ha hb hbody hp hrest ihbody ihrest =>
    exact List.Subset.trans ihbody (List.Subset.trans (List.subset_append_left _ _) ihrest)

/-- A body that has nothing left to inline has had all its inner names inlined. -/
theorem Layered.done {after : List Rule} {s₁ : State} (hs : Layered original counts s)
    (hb : s.repository.get? name = some body)
    (hbody : Rewrites counts active [body] (Compaction.takeOut name s) after s₁)
    (hincludes : ∀ n ∈ Rule.includesList [body], counts.get n = 1 → n ∈ s₁.inlined) (inner : String)
    (hn : original.Nested counts inner name) : inner ∈ s₁.inlined := by
  rcases hs.entries name body hb inner hn with hinner | hinner
  · rw [Rule.includesList_singleton] at hincludes
    exact hincludes inner hinner hn.1
  · exact hbody.inlined_subset hinner

/-- Unless the guard steps in, all names used once are inlined out of some rules. -/
theorem Rewrites.layered (h : Rewrites counts active rs s rs' s') (hguarded : s'.guarded = [])
    (hs : Layered original counts s) : Layered original counts s' ∧
      ∀ n ∈ Rule.includesList rs, counts.get n = 1 → n ∈ s'.inlined := by
  induction h with
  | nil => exact ⟨hs, nofun⟩
  | @inside active r r' rest rest' s s₁ s₂ href hnode hchildren hrest ihchildren ihrest =>
    have hcalm : s₁.guarded = [] := hrest.guarded_eq_nil hguarded
    obtain ⟨hlayered₁, hchildren₁⟩ := ihchildren hcalm hs
    obtain ⟨hlayered₂, hrest₂⟩ := ihrest hguarded hlayered₁
    refine ⟨hlayered₂, fun n hn hone => ?_⟩
    rw [Rule.includesList, Rule.includes_eq_children href] at hn
    rcases List.mem_append.1 hn with hn | hn
    · exact hrest.inlined_subset (hchildren₁ n hn hone)
    · exact hrest₂ n hn hone
  | kept hcount hrest ihrest =>
    obtain ⟨hlayered, hrest₁⟩ := ihrest hguarded hs
    refine ⟨hlayered, fun n hn hone => ?_⟩
    rcases List.mem_cons.1 hn with rfl | hn
    · exact absurd hone hcount
    · exact hrest₁ n hn hone
  | pinned hcount ha hrest ihrest =>
    cases hrest.guarded_eq_nil hguarded
  | @restored active name tag body body' rest rest' s s₁ s₂ hcount ha hb hbody hp hrest ihbody
      ihrest =>
    have hcalm : s₁.guarded = [] := hrest.guarded_eq_nil hguarded
    have hpin := (ihbody hcalm hs.takeOut).1.pinned hp
    rw [hcalm] at hpin
    cases hpin
  | @inlined active name tag body body' rest rest' s s₁ s₂ hcount ha hb hbody hp hrest ihbody
      ihrest =>
    have hcalm : s₁.guarded = [] := hrest.guarded_eq_nil hguarded
    obtain ⟨hlayered₁, hbody₁⟩ := ihbody hcalm hs.takeOut
    have hdone := hlayered₁.inline (hs.done hb hbody hbody₁)
    obtain ⟨hlayered₂, hrest₂⟩ := ihrest hguarded hdone
    refine ⟨hlayered₂, fun n hn hone => ?_⟩
    rcases List.mem_cons.1 hn with rfl | hn
    · exact hrest.inlined_subset (List.mem_append_right _ List.mem_cons_self)
    · exact hrest₂ n hn hone

theorem Visits.layered (h : Visits counts names s s') (hguarded : s'.guarded = [])
    (hs : Layered original counts s) : Layered original counts s' := by
  induction h with
  | nil => exact hs
  | gone hb hrest ih => exact ih hguarded hs
  | @settled name rest body body' s s₁ s₂ hb hbody hrest ih =>
    have hcalm : s₁.guarded = [] := hrest.guarded_eq_nil hguarded
    obtain ⟨hlayered, hincludes⟩ := hbody.layered hcalm hs.takeOut
    exact ih hguarded (hlayered.putBack (hs.done hb hbody hincludes))

theorem pass_innerFirst {patterns rules : List Rule}
    (h : (pass counts patterns original).run { repository := original } = .ok (rules, s))
    (hguarded : s.guarded = []) : InnerFirst (original.Nested counts) s.inlined := by
  obtain ⟨s₁, hpatterns, hentries⟩ := pass_eq_ok h
  have hcalm : s₁.guarded = [] := hentries.guarded_eq_nil hguarded
  have hlayered := (hpatterns.layered hcalm (layered_start original counts)).1
  exact (hentries.layered hguarded hlayered).inner

theorem ofCounts_innerFirst {patterns : List Rule} {c : Compaction}
    (hcounted : original.Counted patterns counts) (h : ofCounts counts patterns original = .ok c) :
    InnerFirst (original.Nested counts) c.inlined := by
  obtain ⟨inlined, hin⟩ := hcounted.inlinable.exists_inlines
  obtain ⟨s, hrun, hguarded, -⟩ := run_pass hcounted hin
  obtain ⟨s', hrun', -, hinlined, -⟩ := ofCounts_eq_ok h
  obtain ⟨-, rfl⟩ := Prod.mk.inj (Except.ok.inj (hrun.symm.trans hrun'))
  rw [hinlined]
  exact pass_innerFirst hrun hguarded

end Layered

end Compaction

/--
A report lists what is inside a body before the entry of the body, whichever way the pass came to
them. So it lists every chain of nested entries used once from the inside out.
-/
theorem Grammar.run_inlines_inner_first (g : Grammar) (deny : FindingSet) (report : Report)
    (h : (g.run deny).result = .ok report) :
    report.inlined.Nodup ∧
    (∀ inner outer body, g.uses inner = 1 → g.uses outer = 1 →
      g.repository.get? outer = some body → inner ∈ body.includes →
      [inner, outer].Sublist report.inlined) ∧
    ∀ chain : List String, (∀ name ∈ chain, g.uses name = 1) →
      chain.IsChain (fun inner outer =>
        ∃ body, g.repository.get? outer = some body ∧ inner ∈ body.includes) →
      chain.Sublist report.inlined := by
  obtain ⟨counts, c, hcount, hc, -, hreport⟩ := exists_compaction_of_result h
  have hcounted := Repository.counted_of_countUses hcount
  have hinlined : report.inlined = c.inlined := congrArg Report.inlined hreport
  have hinner := Compaction.ofCounts_innerFirst hcounted hc
  have hkeys := (Compaction.keys_perm_of_ofCounts hc).nodup_iff.2 g.repository.keys_nodup
  have hchains : ∀ chain : List String, (∀ name ∈ chain, g.uses name = 1) →
      chain.IsChain (fun inner outer =>
        ∃ body, g.repository.get? outer = some body ∧ inner ∈ body.includes) →
      chain.Sublist c.inlined := by
    intro chain hone hchain
    have hcounts : ∀ name ∈ chain, counts.get name = 1 := fun name hn => by
      rw [← uses_eq hcounted]
      exact hone name hn
    have hnested : chain.IsChain (g.repository.Nested counts) :=
      hchain.imp_of_mem_imp fun inner outer hn _ hbody => ⟨hcounts inner hn, hbody⟩
    apply hinner.sublist hnested
    intro name hn
    exact (mem_inlined_iff hcounted hc).2 (hcounts name (List.mem_of_mem_getLast? hn))
  rw [hinlined]
  refine ⟨hkeys.of_append_left.of_append_left, fun inner outer body hone hone' hb hn => ?_, hchains⟩
  have hpair : ∀ name ∈ [inner, outer], g.uses name = 1 :=
    List.forall_mem_cons.2 ⟨hone, List.forall_mem_singleton.2 hone'⟩
  exact hchains [inner, outer] hpair (List.isChain_pair.2 ⟨body, hb, hn⟩)

theorem Grammar.run_inlines_inner_first_circular :
    (circular.run .none).result = .ok .circular ∧
    Report.circular.inlined.Nodup ∧
    (∀ inner outer body, circular.uses inner = 1 → circular.uses outer = 1 →
      circular.repository.get? outer = some body → inner ∈ body.includes →
      [inner, outer].Sublist Report.circular.inlined) ∧
    ∀ chain : List String, (∀ name ∈ chain, circular.uses name = 1) →
      chain.IsChain (fun inner outer =>
        ∃ body, circular.repository.get? outer = some body ∧ inner ∈ body.includes) →
      chain.Sublist Report.circular.inlined :=
  have h : (circular.run .none).result = .ok .circular := by cbv
  ⟨h, run_inlines_inner_first circular .none .circular h⟩

end TextMate
