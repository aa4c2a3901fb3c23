import TextMate.Compaction
import TextMate.Proofs.Inlining

/-! A compaction pass that is given the use counts of the grammar itself. -/
namespace TextMate.Compaction

variable {counts : UseCounts}

section Run

variable {name : String} {tag : Option String} {s s' : State}

theorem replace_kept {active : List String} {inline : String → Option String → Step Rule}
    (h : counts.get name ≠ 1) :
    replace counts active inline (.entry name) tag = pure (.reference (.entry name) tag) :=
  if_pos h

theorem replace_once {active : List String} {inline : String → Option String → Step Rule}
    (h : counts.get name = 1) (ha : name ∉ active) :
    replace counts active inline (.entry name) tag = inline name tag :=
  (if_neg (not_not_intro h)).trans (if_neg ha)

theorem expand_zero (active : List String) :
    expand counts 0 active = replace counts active fun name _ => throw (.unresolved name) := rfl

theorem expand_succ (depth : Nat) (active : List String) :
    expand counts (depth + 1) active = replace counts active fun name =>
      inlineEntry (Rule.mapIncludesM (expand counts depth (name :: active))) name := rfl

theorem run_inlineEntry {settle : Rule → Step Rule} {body result : Rule}
    (hb : s.repository.get? name = some body)
    (hr : (settle body).run (takeOut name s) = .ok (result, s')) (hp : name ∉ s'.pinned) :
    (inlineEntry settle name tag).run s =
      .ok (result, { s' with inlined := s'.inlined ++ [name] }) := by
  unfold inlineEntry inlineEntryM
  rw [run_get_bind]
  simp only [hb]
  rw [run_modify_bind, run_bind_ok hr, run_get_bind, if_neg hp]
  rfl

theorem run_settleEntry_none {depth : Nat} (hb : s.repository.get? name = none) :
    (settleEntry counts depth name).run s = .ok ((), s) := by
  unfold settleEntry settleEntryM
  rw [run_get_bind]
  simp only [hb]
  rfl

theorem run_settleEntry_some {depth : Nat} {body result : Rule}
    (hb : s.repository.get? name = some body)
    (hr : (body.mapIncludesM (expand counts depth [name])).run (takeOut name s) =
      .ok (result, s')) :
    (settleEntry counts depth name).run s = .ok ((), putBack name result s') := by
  unfold settleEntry settleEntryM
  rw [run_get_bind]
  simp only [hb]
  rw [run_modify_bind, run_bind_ok hr]
  rfl

end Run

/-- The number of includes of a name in the bodies of entries in use. -/
abbrev liveUses (counts : UseCounts) (repository : Repository) (name : String) : Nat :=
  repository.usesIn (0 < counts.get ·) name

theorem liveUses_erase {repository : Repository} {outer : String} {body : Rule}
    (hb : repository.get? outer = some body) (hu : 0 < counts.get outer) (name : String) :
    liveUses counts repository name =
      liveUses counts (repository.erase outer) name + body.includes.count name := by
  unfold liveUses
  rw [Repository.usesIn_erase _ name hb, if_pos hu]

theorem liveUses_insert {repository : Repository} {outer : String} {body : Rule}
    (hb : repository.get? outer = none) (hu : 0 < counts.get outer) (name : String) :
    liveUses counts (repository.insert outer body) name =
      liveUses counts repository name + body.includes.count name := by
  unfold liveUses
  rw [Repository.usesIn_insert _ name hb, if_pos hu]

/--
Of a name used once either both the entry and its include are there or neither. The includes are
those in the repository and the pending ones, the entries those in the repository and the held one.
-/
def Paired (counts : UseCounts) (held : Option String) (pending : List String)
    (repository : Repository) : Prop :=
  ∀ name, counts.get name = 1 → pending.count name + liveUses counts repository name =
    if (repository.get? name).isSome ∨ held = some name then 1 else 0

section Paired

variable {repository : Repository} {held : Option String} {pending : List String} {name : String}
  {body : Rule}

theorem Paired.isSome (h : Paired counts held (name :: pending) repository)
    (hone : counts.get name = 1) (hheld : held ≠ some name) : (repository.get? name).isSome := by
  by_contra hnone
  have hpair := h name hone
  rw [if_neg (by simp [hheld, hnone]), List.count_cons_self] at hpair
  omega

/-- An include and its entry go together, and the includes of the body take their place. -/
theorem Paired.inline (h : Paired counts held (name :: pending) repository)
    (hone : counts.get name = 1) (hheld : held ≠ some name)
    (hb : repository.get? name = some body) :
    Paired counts held (body.includes ++ pending) (repository.erase name) := by
  intro n hn
  have hpair := h n hn
  rw [liveUses_erase hb (by omega)] at hpair
  rw [List.count_append, Table.get?_erase]
  by_cases heq : n = name
  · subst heq
    rw [List.count_cons_self, hb] at hpair
    rw [if_pos rfl, if_neg (by simp [hheld])]
    simp only [Option.isSome_some, true_or, if_true] at hpair
    omega
  · rw [List.count_cons_of_ne (Ne.symm heq)] at hpair
    rw [if_neg heq, ← hpair]
    omega

/-- An entry that is taken out to be put back goes on as the held one. -/
theorem Paired.hold (h : Paired counts none [] repository) (hu : 0 < counts.get name)
    (hb : repository.get? name = some body) :
    Paired counts (some name) body.includes (repository.erase name) := by
  intro n hn
  have hpair := h n hn
  rw [liveUses_erase hb hu, List.count_nil] at hpair
  rw [Table.get?_erase]
  by_cases heq : n = name
  · subst heq
    rw [hb] at hpair
    simp only [Option.isSome_some, true_or, if_true] at hpair
    rw [if_pos rfl, if_pos (.inr rfl), ← hpair]
    omega
  · have hne : ¬ some name = some n := fun h => heq (Option.some.inj h).symm
    simp only [reduceCtorEq, or_false] at hpair
    simp only [if_neg heq, hne, or_false]
    rw [← hpair]
    omega

theorem Paired.putBack (h : Paired counts (some name) [] repository) (hu : 0 < counts.get name)
    (habsent : repository.get? name = none)
    (hbody : ∀ inner ∈ body.includes, counts.get inner ≠ 1) :
    Paired counts none [] (repository.insert name body) := by
  intro n hn
  have hzero : body.includes.count n = 0 :=
    List.count_eq_zero.2 fun hmem => hbody n hmem hn
  rw [liveUses_insert habsent hu, hzero, Nat.add_zero, h n hn, Table.get?_insert]
  by_cases heq : n = name
  · simp [heq]
  · have hne : ¬ some name = some n := fun h => heq (Option.some.inj h).symm
    simp [heq, hne]

end Paired

/-- A name used once, inside the bodies of such names down to that of the outer name. -/
abbrev Inside (original : Repository) (counts : UseCounts) : String → String → Prop :=
  Relation.TransGen (original.Nested counts)

/-- Every body is that of the original entry with some of the names in it inlined. -/
structure Derived (original : Repository) (counts : UseCounts) (inlined : Rule → Rule)
    (repository : Repository) : Prop where
  body : ∀ name body, repository.get? name = some body →
    ∃ before, original.get? name = some before ∧ inlined body = inlined before
  inside : ∀ outer body, repository.get? outer = some body → ∀ inner ∈ body.includes,
    counts.get inner = 1 → Inside original counts inner outer

section Derived

variable {original repository : Repository} {inlined : Rule → Rule} {name : String} {body : Rule}

theorem Derived.erase (h : Derived original counts inlined repository) :
    Derived original counts inlined (repository.erase name) where
  body n b hn := h.body n b (Table.get?_of_erase hn)
  inside outer b ho := h.inside outer b (Table.get?_of_erase ho)

theorem Derived.insert (h : Derived original counts inlined repository)
    (hbody : ∃ before, original.get? name = some before ∧ inlined body = inlined before)
    (hinside : ∀ inner ∈ body.includes, counts.get inner = 1 → Inside original counts inner name) :
    Derived original counts inlined (repository.insert name body) where
  body n b hn := by
    rw [Table.get?_insert] at hn
    split at hn
    · rename_i heq
      cases hn
      exact heq ▸ hbody
    · exact h.body n b hn
  inside outer b ho := by
    rw [Table.get?_insert] at ho
    split at ho
    · rename_i heq
      cases ho
      exact heq ▸ hinside
    · exact h.inside outer b ho

end Derived

/--
What holds of the repository in the middle of a pass. Some includes are still to be replaced, the
active names are under way, and of these `held` is the entry that gets its body back.
-/
structure Fits (original : Repository) (counts : UseCounts) (inlined : Rule → Rule)
    (held : Option String) (active pending : List String) (repository : Repository) : Prop where
  paired : Paired counts held pending repository
  derived : Derived original counts inlined repository
  below : ∀ outer, held = some outer → ∀ inner ∈ pending, counts.get inner = 1 →
    Inside original counts inner outer
  absent : ∀ name ∈ active, repository.get? name = none
  size : repository.size + active.length ≤ original.size

section Fits

variable {original repository : Repository} {inlined : Rule → Rule} {held : Option String}
  {active pending : List String} {name : String} {body : Rule}

/-- No body used once leads back to the entry held. -/
theorem Fits.held_ne (hf : Fits original counts inlined held active (name :: pending) repository)
    (hi : original.Inlinable counts) (hone : counts.get name = 1) : held ≠ some name := by
  intro h
  have hself := hf.below name h name List.mem_cons_self hone
  exact hi.wellFounded.transGen.irrefl.irrefl name hself

/-- A name used once has its entry when its include is met. -/
theorem Fits.present (hf : Fits original counts inlined held active (name :: pending) repository)
    (hi : original.Inlinable counts) (hone : counts.get name = 1) :
    ∃ body, repository.get? name = some body :=
  Option.isSome_iff_exists.1 (hf.paired.isSome hone (hf.held_ne hi hone))

/-- To inline an entry is to meet the includes of its body next. -/
theorem Fits.inline (hf : Fits original counts inlined held active (name :: pending) repository)
    (hi : original.Inlinable counts) (hone : counts.get name = 1)
    (hb : repository.get? name = some body) :
    Fits original counts inlined held (name :: active) (body.includes ++ pending)
      (repository.erase name) where
  paired := hf.paired.inline hone (hf.held_ne hi hone) hb
  derived := hf.derived.erase
  below outer ho inner hinner hn := by
    rcases List.mem_append.1 hinner with h | h
    · have hname := hf.below outer ho name List.mem_cons_self hone
      exact (hf.derived.inside name body hb inner h hn).trans hname
    · exact hf.below outer ho inner (List.mem_cons_of_mem _ h) hn
  absent n hn := by
    rw [Table.get?_erase]
    split
    · rfl
    · rename_i hne
      exact hf.absent n ((List.mem_cons.1 hn).resolve_left hne)
  size := by
    have hsize := hf.size
    rw [Table.size_erase hb] at hsize
    rw [List.length_cons]
    omega

theorem Fits.leave (hf : Fits original counts inlined held (name :: active) pending repository) :
    Fits original counts inlined held active pending repository where
  paired := hf.paired
  derived := hf.derived
  below := hf.below
  absent n hn := hf.absent n (List.mem_cons_of_mem _ hn)
  size := by
    have hsize := hf.size
    rw [List.length_cons] at hsize
    omega

/-- Includes of other names do not matter. -/
theorem Fits.skip (hf : Fits original counts inlined held active (name :: pending) repository)
    (hone : counts.get name ≠ 1) :
    Fits original counts inlined held active pending repository where
  paired n hn := by
    have hne : name ≠ n := fun h => hone (h ▸ hn)
    have hpair := hf.paired n hn
    rwa [List.count_cons_of_ne hne] at hpair
  derived := hf.derived
  below outer ho inner hn := hf.below outer ho inner (List.mem_cons_of_mem _ hn)
  absent := hf.absent
  size := hf.size

/-- An entry under way is out of the repository and holds its place there. -/
theorem Fits.hold (hf : Fits original counts inlined none [] [] repository)
    (hu : 0 < counts.get name) (hb : repository.get? name = some body) :
    Fits original counts inlined (some name) [name] body.includes (repository.erase name) where
  paired := hf.paired.hold hu hb
  derived := hf.derived.erase
  below outer ho inner hinner hn := by
    cases ho
    exact hf.derived.inside name body hb inner hinner hn
  absent n hn := by
    rw [Table.get?_erase, if_pos (List.mem_singleton.1 hn)]
  size := by
    have hsize := hf.size
    rw [Table.size_erase hb] at hsize
    exact hsize

/-- The entry is back with its body inlined, where nothing is left to inline. -/
theorem Fits.putBack (hf : Fits original counts inlined (some name) [name] [] repository)
    (hi : original.Inlinable counts) (hin : original.Inlines counts inlined)
    (hu : 0 < counts.get name)
    (hbody : ∃ before, original.get? name = some before ∧ inlined body = inlined before) :
    Fits original counts inlined none [] [] (repository.insert name (inlined body)) where
  paired := hf.paired.putBack hu (hf.absent name List.mem_cons_self) (hin.get_ne_one hi body)
  derived := by
    refine hf.derived.insert ?_ fun inner hinner hone => ?_
    · rwa [hin.idem hi]
    · exact absurd hone (hin.get_ne_one hi body inner hinner)
  below := nofun
  absent := nofun
  size := by
    rw [Table.size_insert (hf.absent name List.mem_cons_self)]
    exact hf.size

end Fits

/-- Entries used once have gone, and no other entry has changed. -/
structure Shrunk (counts : UseCounts) (before after : Repository) : Prop where
  entry : ∀ name body, after.get? name = some body → before.get? name = some body
  other : ∀ name, counts.get name ≠ 1 → after.get? name = before.get? name

theorem Shrunk.refl (repository : Repository) : Shrunk counts repository repository :=
  ⟨fun _ _ h => h, fun _ _ => rfl⟩

theorem Shrunk.erase {before after : Repository} {name : String} (h : Shrunk counts before after)
    (hone : counts.get name = 1) : Shrunk counts before (after.erase name) where
  entry n body hn := h.entry n body (Table.get?_of_erase hn)
  other n hn := by
    have hne : n ≠ name := fun he => hn (he ▸ hone)
    rw [Table.get?_erase, if_neg hne, h.other n hn]

/-- The state in the middle of a pass that has not pinned any name. -/
structure Calm (original : Repository) (counts : UseCounts) (inlined : Rule → Rule)
    (held : Option String) (active : List String) (before : Repository) (pending : List String)
    (s : State) : Prop where
  fits : Fits original counts inlined held active pending s.repository
  shrunk : Shrunk counts before s.repository
  pinned : s.pinned = []
  guarded : s.guarded = []

section Expand

variable {original before : Repository} {inlined : Rule → Rule} {held : Option String}
  {active : List String}

theorem Calm.skip {name : String} {pending : List String} {s : State}
    (hs : Calm original counts inlined held active before (name :: pending) s)
    (hone : counts.get name ≠ 1) : Calm original counts inlined held active before pending s :=
  ⟨hs.fits.skip hone, hs.shrunk, hs.pinned, hs.guarded⟩

/-- It remains to look at includes of names that are used once and whose entries are there. -/
theorem consumes_replace (hi : original.Inlinable counts) (hin : original.Inlines counts inlined)
    {inline : String → Option String → Step Rule}
    (h : ∀ name tag body pending s, counts.get name = 1 → s.repository.get? name = some body →
      Calm original counts inlined held active before (name :: pending) s →
      ∃ s', (inline name tag).run s = .ok (inlined (.reference (.entry name) tag), s') ∧
        Calm original counts inlined held active before pending s') :
    Rule.Consumes (replace counts active inline)
      (fun target tag => inlined (.reference target tag))
      (Calm original counts inlined held active before) := by
  intro target tag pending s hs
  cases target with
  | external text =>
    refine ⟨s, ?_, hs⟩
    dsimp only
    rw [hin.external]
    rfl
  | entry name =>
    by_cases hone : counts.get name = 1
    · obtain ⟨body, hb⟩ := hs.fits.present hi hone
      have hactive : name ∉ active := by
        intro ha
        have := hs.fits.absent name ha
        rw [hb] at this
        cases this
      obtain ⟨s', hrun, hs'⟩ := h name tag body pending s hone hb hs
      rw [replace_once hone hactive]
      exact ⟨s', hrun, hs'⟩
    · refine ⟨s, ?_, hs.skip hone⟩
      rw [replace_kept hone]
      dsimp only
      rw [hin.kept name tag hone]
      rfl

/-- Every include is replaced by its inlined form, and no name is ever pinned. -/
theorem consumes_expand (hi : original.Inlinable counts) (hin : original.Inlines counts inlined)
    (depth : Nat) (hd : original.size ≤ depth + active.length) :
    Rule.Consumes (expand counts depth active) (fun target tag => inlined (.reference target tag))
      (Calm original counts inlined held active before) := by
  -- Each entry under way is out of the repository, so no entry is left when the depth is used up.
  induction depth generalizing active with
  | zero =>
    refine consumes_replace hi hin fun name tag body pending s hone hb hs => ?_
    have hsize := hs.fits.size
    rw [Table.size_erase hb] at hsize
    omega
  | succ depth ih =>
    refine consumes_replace hi hin fun name tag body pending s hone hb hs => ?_
    have htaken : Calm original counts inlined held (name :: active) before
        (body.includes ++ pending) (takeOut name s) :=
      ⟨hs.fits.inline hi hone hb, hs.shrunk.erase hone, hs.pinned, hs.guarded⟩
    have hlength : original.size ≤ depth + (name :: active).length := by
      rw [List.length_cons]
      omega
    obtain ⟨s', hrun, hs'⟩ := (ih hlength).rule body htaken
    obtain ⟨origin, ho, heq⟩ := hs.fits.derived.body name body hb
    rw [← hin.eq_mapIncludes, heq, ← hin.once name tag origin hone ho] at hrun
    have hpinned : name ∉ s'.pinned := by
      rw [hs'.pinned]
      exact List.not_mem_nil
    exact ⟨_, run_inlineEntry hb hrun hpinned, hs'.fits.leave, hs'.shrunk, hs'.pinned, hs'.guarded⟩

end Expand

/-- The repository between two entries of the pass; those in `rest` are still to be settled. -/
structure Settled (original : Repository) (counts : UseCounts) (inlined : Rule → Rule)
    (rest : List String) (repository : Repository) : Prop where
  fits : Fits original counts inlined none [] [] repository
  done : ∀ name body, repository.get? name = some body → 0 < counts.get name → name ∉ rest →
    inlined body = body
  shared : ∀ name, counts.get name ≠ 1 →
    (repository.get? name).isSome = (original.get? name).isSome
  unused : ∀ name, counts.get name = 0 → repository.get? name = original.get? name

section Settle

variable {original repository : Repository} {inlined : Rule → Rule} {name : String} {body : Rule}
  {rest : List String}

theorem Settled.putBack {after : Repository} (hi : original.Inlinable counts)
    (hin : original.Inlines counts inlined)
    (h : Settled original counts inlined (name :: rest) repository) (hu : 0 < counts.get name)
    (hb : repository.get? name = some body)
    (hf : Fits original counts inlined (some name) [name] [] after)
    (hs : Shrunk counts (repository.erase name) after) :
    Settled original counts inlined rest (after.insert name (inlined body)) where
  fits := hf.putBack hi hin hu (h.fits.derived.body name body hb)
  done n b hn hun hrest := by
    rw [Table.get?_insert] at hn
    split at hn
    · rw [← Option.some.inj hn, hin.idem hi]
    · rename_i hne
      refine h.done n b (Table.get?_of_erase (hs.entry n b hn)) hun fun hmem => ?_
      rcases List.mem_cons.1 hmem with heq | hmem
      · exact hne heq
      · exact hrest hmem
  shared n hn := by
    rw [Table.get?_insert, ← h.shared n hn]
    split
    · rename_i heq
      rw [heq, hb]
      rfl
    · rename_i hne
      rw [hs.other n hn, Table.get?_erase, if_neg hne]
  unused n hn := by
    have hne : n ≠ name := by
      rintro rfl
      omega
    rw [Table.get?_insert, if_neg hne, hs.other n (by omega), Table.get?_erase, if_neg hne,
      h.unused n hn]

/-- A name without an entry needs no more work. -/
theorem Settled.skip (h : Settled original counts inlined (name :: rest) repository)
    (hb : repository.get? name = none) : Settled original counts inlined rest repository where
  fits := h.fits
  done n b hn hu hrest := by
    refine h.done n b hn hu fun hmem => ?_
    rcases List.mem_cons.1 hmem with heq | hmem
    · rw [heq, hb] at hn
      cases hn
    · exact hrest hmem
  shared := h.shared
  unused := h.unused

/-- The state between two entries of a pass that has not pinned any name. -/
structure Between (original : Repository) (counts : UseCounts) (inlined : Rule → Rule)
    (rest : List String) (s : State) : Prop where
  settled : Settled original counts inlined rest s.repository
  pinned : s.pinned = []
  guarded : s.guarded = []

theorem run_settleEntry (hi : original.Inlinable counts) (hin : original.Inlines counts inlined)
    {s : State} (hu : 0 < counts.get name)
    (h : Between original counts inlined (name :: rest) s) :
    ∃ s', (settleEntry counts original.size name).run s = .ok ((), s') ∧
      Between original counts inlined rest s' := by
  cases hb : s.repository.get? name with
  | none =>
    exact ⟨s, run_settleEntry_none hb, h.settled.skip hb, h.pinned, h.guarded⟩
  | some body =>
    have htaken : Calm original counts inlined (some name) [name] (s.repository.erase name)
        (body.includes ++ []) (takeOut name s) := by
      rw [List.append_nil]
      exact ⟨h.settled.fits.hold hu hb, .refl _, h.pinned, h.guarded⟩
    obtain ⟨s', hrun, hs'⟩ :=
      (consumes_expand hi hin original.size (Nat.le_add_right _ _)).rule body htaken
    rw [← hin.eq_mapIncludes] at hrun
    refine ⟨_, run_settleEntry_some hb hrun, ?_, ?_, hs'.guarded⟩
    · exact h.settled.putBack hi hin hu hb hs'.fits hs'.shrunk
    · unfold putBack
      rw [hs'.pinned]
      rfl

theorem run_settleEntries (hi : original.Inlinable counts) (hin : original.Inlines counts inlined)
    {s : State} (hu : ∀ name ∈ rest, 0 < counts.get name)
    (h : Between original counts inlined rest s) :
    ∃ s', (rest.forM (settleEntry counts original.size)).run s = .ok ((), s') ∧
      Between original counts inlined [] s' := by
  induction rest generalizing s with
  | nil => exact ⟨s, rfl, h⟩
  | cons name rest ih =>
    obtain ⟨s₁, hrun, h₁⟩ := run_settleEntry hi hin (hu name List.mem_cons_self) h
    obtain ⟨s₂, hrest, h₂⟩ := ih (fun n hn => hu n (List.mem_cons_of_mem _ hn)) h₁
    refine ⟨s₂, ?_, h₂⟩
    unfold List.forM
    rw [run_bind_ok hrun, hrest]

/-- Every body is inlined, so no include of a name used once is left, and neither is its entry. -/
theorem Settled.get?_of_once (hi : original.Inlinable counts)
    (hin : original.Inlines counts inlined) (h : Settled original counts inlined [] repository)
    (hone : counts.get name = 1) : repository.get? name = none := by
  have hzero : liveUses counts repository name = 0 := by
    refine Table.total_eq_zero fun user body hb => ?_
    split
    · rename_i hu
      refine List.count_eq_zero.2 fun hmem => ?_
      rw [← h.done user body hb hu List.not_mem_nil] at hmem
      exact hin.get_ne_one hi body name hmem hone
    · rfl
  have hpair := h.fits.paired name hone
  rw [hzero, List.count_nil] at hpair
  by_contra hne
  rw [if_pos (.inl (Option.isSome_iff_ne_none.2 hne))] at hpair
  omega

theorem Settled.get?_of_shared (h : Settled original counts inlined [] repository)
    (htwo : 2 ≤ counts.get name) : repository.get? name = (original.get? name).map inlined := by
  have hsome := h.shared name (by omega)
  cases hb : repository.get? name with
  | none =>
    have hnone : original.get? name = none := by
      rw [hb] at hsome
      exact Option.not_isSome_iff_eq_none.1 (by simp [← hsome])
    rw [hnone]
    rfl
  | some body =>
    obtain ⟨before, ho, heq⟩ := h.fits.derived.body name body hb
    rw [ho, Option.map_some, ← heq, h.done name body hb (by omega) List.not_mem_nil]

end Settle

section Pass

variable {repository : Repository} {patterns : List Rule} {inlined : Rule → Rule}

theorem fits_start (h : repository.Counted patterns counts) :
    Fits repository counts inlined none [] (Rule.includesList patterns) repository where
  paired name hone := by
    obtain ⟨body, hb⟩ := h.entry name (by omega)
    rw [if_pos (.inl (by rw [hb]; rfl)), ← hone]
    exact (h.get_eq name).symm
  derived := {
    body := fun name body hb => ⟨body, hb, rfl⟩
    inside := fun outer body hb inner hinner hone => .single ⟨hone, body, hb, hinner⟩ }
  below outer ho := nomatch ho
  absent name hn := nomatch hn
  size := Nat.le_refl _

theorem settled_start {after : Repository}
    (hf : Fits repository counts inlined none [] [] after) (hs : Shrunk counts repository after) :
    Settled repository counts inlined
      (repository.keys.filter fun name => 0 < counts.get name) after where
  fits := hf
  done name body hb hu hrest := by
    refine absurd (List.mem_filter.2 ⟨?_, by simpa using hu⟩) hrest
    rw [Table.mem_keys_iff, hs.entry name body hb]
    rfl
  shared name hn := by rw [hs.other name hn]
  unused name hn := hs.other name (by omega)

/--
Given the counts of the grammar itself, a pass inlines the patterns and the shared entries, removes
the entries used once and pins no name.
-/
theorem run_pass (h : repository.Counted patterns counts)
    (hin : repository.Inlines counts inlined) :
    ∃ s, (pass counts patterns repository).run { repository } = .ok (patterns.map inlined, s) ∧
      s.guarded = [] ∧
      (∀ name, counts.get name = 0 → s.repository.get? name = repository.get? name) ∧
      (∀ name, counts.get name = 1 → s.repository.get? name = none) ∧
      ∀ name, 2 ≤ counts.get name →
        s.repository.get? name = (repository.get? name).map inlined := by
  have hi := h.inlinable
  have hstart : Calm repository counts inlined none [] repository
      (Rule.includesList patterns ++ []) { repository } := by
    rw [List.append_nil]
    exact ⟨fits_start h, .refl _, rfl, rfl⟩
  obtain ⟨s₁, hrun, h₁⟩ :=
    (consumes_expand hi hin repository.size (Nat.le_add_right _ _)).list patterns hstart
  rw [← List.map_congr_left fun r _ => hin.eq_mapIncludes r] at hrun
  have hbetween : Between repository counts inlined
      (repository.keys.filter fun name => 0 < counts.get name) s₁ :=
    ⟨settled_start h₁.fits h₁.shrunk, h₁.pinned, h₁.guarded⟩
  obtain ⟨s₂, hrest, h₂⟩ := run_settleEntries hi hin
    (fun name hn => by simpa using (List.mem_filter.1 hn).2) hbetween
  refine ⟨s₂, ?_, h₂.guarded, h₂.settled.unused,
    fun name hone => h₂.settled.get?_of_once hi hin hone,
    fun name htwo => h₂.settled.get?_of_shared htwo⟩
  unfold pass passM
  rw [run_bind_ok hrun, run_bind_ok hrest]
  rfl

theorem ofCounts_of_run {rules : List Rule} {s : State}
    (h : (pass counts patterns repository).run { repository } = .ok (rules, s)) :
    ofCounts counts patterns repository = .ok {
      patterns := rules
      repository := s.repository.filter fun name _ => counts.get name ≠ 0
      inlined := s.inlined
      pruned := s.repository.keys.filter fun name => counts.get name = 0
      findings := s.repository.keys.filterMap (findingOf? counts) } := by
  unfold ofCounts ofCountsM
  rw [h]
  rfl

theorem kind_ne_singleUse {name : String} {d : Finding} (hone : counts.get name ≠ 1)
    (h : findingOf? counts name = some d) : d.kind ≠ .singleUse := by
  unfold findingOf? at h
  split at h
  · cases h
    exact nofun
  · rename_i heq
    exact absurd heq hone
  · cases h

/--
Given the counts of the grammar itself, compaction succeeds, leaves no include in place because of
the guard against circles, and finds no entry that is used once and still there.
-/
theorem ofCounts_of_countUses (patterns : List Rule) (repository : Repository)
    (counts : UseCounts) (h : repository.countUses patterns = .ok counts) :
    ∃ rules s c, (pass counts patterns repository).run { repository } = .ok (rules, s) ∧
      s.guarded = [] ∧ ofCounts counts patterns repository = .ok c ∧
      ∀ d ∈ c.findings, d.kind ≠ .singleUse := by
  have hcounted := Repository.counted_of_countUses h
  obtain ⟨inlined, hin⟩ := hcounted.inlinable.exists_inlines
  obtain ⟨s, hrun, hguarded, -, honce, -⟩ := run_pass hcounted hin
  refine ⟨_, s, _, hrun, hguarded, ofCounts_of_run hrun, fun d hd => ?_⟩
  obtain ⟨name, hname, hfinding⟩ := List.mem_filterMap.1 hd
  refine kind_ne_singleUse (fun hone => ?_) hfinding
  have := Table.mem_keys_iff.1 hname
  rw [honce name hone] at this
  cases this

theorem ofCounts_of_countUses_circular :
    Grammar.circular.repository.countUses Grammar.circular.patterns = .ok .circular ∧
    ∃ rules s c,
      (pass .circular Grammar.circular.patterns Grammar.circular.repository).run
        { repository := Grammar.circular.repository } = .ok (rules, s) ∧
      s.guarded = [] ∧
      ofCounts .circular Grammar.circular.patterns Grammar.circular.repository = .ok c ∧
      ∀ d ∈ c.findings, d.kind ≠ .singleUse :=
  have h : Grammar.circular.repository.countUses Grammar.circular.patterns = .ok .circular := by cbv
  ⟨h, ofCounts_of_countUses _ _ _ h⟩

end Pass

end TextMate.Compaction
