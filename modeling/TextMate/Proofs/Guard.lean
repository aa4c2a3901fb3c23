import TextMate.Proofs.Conservation
import TextMate.Proofs.Counting

/-! The names that a pass pins, given any counts at all, and the includes that stay in place. -/
namespace TextMate

/-- The names of all includes of entries, in the patterns and in all bodies. -/
def Repository.mentions (repository : Repository) (patterns : List Rule) : List String :=
  Rule.includesList patterns ++ repository.entries.flatMap fun e => e.2.includes

theorem Repository.mentions_eq_filterMap (repository : Repository) (patterns : List Rule) :
    repository.mentions patterns =
      (Rule.nodesList patterns ++ repository.nodes).filterMap Rule.reference? := by
  rw [List.filterMap_append, ← Rule.includesList_eq_filterMap, nodes, List.filterMap_flatMap]
  exact congrArg (_ ++ ·) (List.flatMap_congr fun e _ => Rule.includes_eq_filterMap e.2)

theorem Repository.mem_mentions {repository : Repository} {patterns : List Rule} {name : String} :
    name ∈ repository.mentions patterns ↔ name ∈ Rule.includesList patterns ∨
      ∃ user body, repository.get? user = some body ∧ name ∈ body.includes := by
  rw [mentions, List.mem_append, List.mem_flatMap]
  refine or_congr_right ⟨?_, ?_⟩
  · rintro ⟨⟨user, body⟩, he, hn⟩
    exact ⟨user, body, Table.get?_eq_some_iff.2 he, hn⟩
  · rintro ⟨user, body, hb, hn⟩
    exact ⟨(user, body), Table.get?_eq_some_iff.1 hb, hn⟩

/-- The entries that are not used do not count. -/
theorem Repository.count_mentions_used (repository : Repository) (counts : UseCounts)
    (patterns : List Rule) (name : String) :
    (Repository.mentions (repository.filter fun n _ => counts.get n ≠ 0) patterns).count name =
      (Rule.includesList patterns).count name + repository.usesIn (0 < counts.get ·) name := by
  have hbodies : repository.usesIn (0 < counts.get ·) name =
      Table.total (fun _ body => body.includes.count name)
        (repository.filter fun n _ => counts.get n ≠ 0) := by
    rw [Table.total_filter]
    refine Table.total_congr fun user body _ => ?_
    simp [Nat.pos_iff_ne_zero]
  rw [hbodies, mentions, List.count_append, List.count_flatMap]
  rfl

namespace Compaction

variable {counts : UseCounts}

/-- Names are pinned and inlined only if they are used once, and a pinned name does not get lost. -/
structure Once (counts : UseCounts) (active : List String) (s : State) : Prop where
  inlined : ∀ n ∈ s.inlined, counts.get n = 1
  guarded : ∀ n ∈ s.guarded, counts.get n = 1 ∧ 0 < places active s n

section Once

variable {active : List String} {name : String} {body : Rule} {s : State}

theorem Once.pin (h : Once counts active s) (hcount : counts.get name = 1) (ha : name ∈ active) :
    Once counts active (pin name s) where
  inlined := h.inlined
  guarded n hn := by
    rcases List.mem_cons.1 hn with rfl | hn
    · have hplace := List.count_pos_iff.2 ha
      refine ⟨hcount, ?_⟩
      unfold places
      omega
    · exact h.guarded n hn

theorem Once.takeOut (h : Once counts active s) (hb : s.repository.get? name = some body) :
    Once counts (name :: active) (takeOut name s) where
  inlined := h.inlined
  guarded n hn := by
    rw [places_takeOut active hb]
    exact h.guarded n hn

theorem Once.putBack (h : Once counts (name :: active) s) (hb : s.repository.get? name = none) :
    Once counts active (putBack name body s) where
  inlined := h.inlined
  guarded n hn := by
    rw [places_putBack active body hb]
    exact h.guarded n hn

theorem Once.inline (h : Once counts (name :: active) s) (hcount : counts.get name = 1) :
    Once counts active { s with inlined := s.inlined ++ [name] } where
  inlined n hn := by
    rcases List.mem_append.1 hn with hn | hn
    · exact h.inlined n hn
    · rwa [List.mem_singleton.1 hn]
  guarded n hn := by
    rw [places_inlined active name s]
    exact h.guarded n hn

variable (counts) in
theorem invariant_once {p : String → Nat} (hone : ∀ n, p n ≤ 1) :
    Invariant counts fun active s => places active s = p ∧ Once counts active s where
  pin hcount ha h := ⟨h.1, h.2.pin hcount ha⟩
  takeOut hb h := ⟨(invariant_places counts hone).takeOut hb h.1, h.2.takeOut hb⟩
  putBack {active name s} body h := by
    have hnone := get?_of_active (by rwa [h.1]) List.mem_cons_self
    exact ⟨(invariant_places counts hone).putBack body h.1, h.2.putBack hnone⟩
  inline hcount h := ⟨(invariant_places counts hone).inline hcount h.1, h.2.inline hcount⟩

end Once

section Runs

variable {active names : List String} {rs rs' : List Rule} {s s' : State}

theorem Rewrites.guarded_subset (h : Rewrites counts active rs s rs' s') :
    s.guarded ⊆ s'.guarded := by
  induction h with
  | nil => exact List.Subset.refl _
  | inside href hnode hchildren hrest ihchildren ihrest => exact List.Subset.trans ihchildren ihrest
  | kept hcount hrest ihrest => exact ihrest
  | pinned hcount ha hrest ihrest => exact List.Subset.trans (List.subset_cons_self _ _) ihrest
  | restored hcount ha hb hbody hp hrest ihbody ihrest => exact List.Subset.trans ihbody ihrest
  | inlined hcount ha hb hbody hp hrest ihbody ihrest => exact List.Subset.trans ihbody ihrest

theorem Visits.guarded_subset (h : Visits counts names s s') : s.guarded ⊆ s'.guarded := by
  induction h with
  | nil => exact List.Subset.refl _
  | gone hb hrest ih => exact ih
  | settled hb hbody hrest ih => exact List.Subset.trans hbody.guarded_subset ih

theorem Rewrites.guarded_eq_nil (h : Rewrites counts active rs s rs' s')
    (hguarded : s'.guarded = []) : s.guarded = [] :=
  List.subset_nil.1 (hguarded ▸ h.guarded_subset)

theorem Visits.guarded_eq_nil (h : Visits counts names s s') (hguarded : s'.guarded = []) :
    s.guarded = [] :=
  List.subset_nil.1 (hguarded ▸ h.guarded_subset)

end Runs

/-- Why an include may be left: its name is not used once, or the guard has stepped in. -/
def Stays (counts : UseCounts) (s : State) (name : String) : Prop :=
  counts.get name ≠ 1 ∨ name ∈ s.guarded

theorem Stays.mono {s s' : State} {name : String} (h : Stays counts s name)
    (hsub : s.guarded ⊆ s'.guarded) : Stays counts s' name :=
  h.imp_right fun hn => hsub hn

/-- In the entries that are settled every include has a reason to be left. -/
structure Quiet (counts : UseCounts) (settled : String → Prop) (s : State) : Prop where
  stays : ∀ name body, settled name → s.repository.get? name = some body →
    ∀ n ∈ body.includes, Stays counts s n
  pinned : s.pinned ⊆ s.guarded

section Quiet

variable {settled : String → Prop} {active names : List String} {name : String} {body : Rule}
  {rs rs' : List Rule} {s s' : State}

theorem Quiet.pin (h : Quiet counts settled s) : Quiet counts settled (pin name s) where
  stays m b hm hb n hn := (h.stays m b hm hb n hn).mono (List.subset_cons_self _ _)
  pinned := List.cons_subset_cons name h.pinned

theorem Quiet.takeOut (h : Quiet counts settled s) : Quiet counts settled (takeOut name s) where
  stays m b hm hb := h.stays m b hm (Table.get?_of_erase hb)
  pinned := h.pinned

/-- An entry whose body has been rewritten is settled. -/
theorem Quiet.putBack (h : Quiet counts settled s) (hbody : ∀ n ∈ body.includes, Stays counts s n) :
    Quiet counts (fun m => m = name ∨ settled m) (putBack name body s) where
  stays m b hm hb := by
    unfold Compaction.putBack at hb
    rw [Table.get?_insert] at hb
    split at hb
    · cases hb
      exact hbody
    · rename_i hne
      exact h.stays m b (hm.resolve_left hne) hb
  pinned n hn := h.pinned (List.mem_of_mem_filter hn)

theorem Quiet.weaken {settled' : String → Prop} (h : Quiet counts settled s)
    (hsub : ∀ m, settled' m → settled m) : Quiet counts settled' s :=
  ⟨fun m b hm => h.stays m b (hsub m hm), h.pinned⟩

/-- However often rules are rewritten, the includes that are left have a reason. -/
theorem Rewrites.quiet (h : Rewrites counts active rs s rs' s') (hs : Quiet counts settled s) :
    Quiet counts settled s' ∧ ∀ n ∈ Rule.includesList rs', Stays counts s' n := by
  induction h with
  | nil => exact ⟨hs, nofun⟩
  | @inside active r r' rest rest' s s₁ s₂ href hnode hchildren hrest ihchildren ihrest =>
    obtain ⟨hquiet₁, hstays₁⟩ := ihchildren hs
    obtain ⟨hquiet₂, hstays₂⟩ := ihrest hquiet₁
    have href' : r'.reference? = none := by
      have hsame := congrArg Rule.reference? hnode
      rwa [Rule.reference?_withoutChildren, Rule.reference?_withoutChildren, href] at hsame
    refine ⟨hquiet₂, fun n hn => ?_⟩
    rw [Rule.includesList, Rule.includes_eq_children href'] at hn
    rcases List.mem_append.1 hn with hn | hn
    · exact (hstays₁ n hn).mono hrest.guarded_subset
    · exact hstays₂ n hn
  | kept hcount hrest ihrest =>
    obtain ⟨hquiet, hstays⟩ := ihrest hs
    refine ⟨hquiet, fun n hn => ?_⟩
    rcases List.mem_cons.1 hn with rfl | hn
    · exact .inl hcount
    · exact hstays n hn
  | pinned hcount ha hrest ihrest =>
    obtain ⟨hquiet, hstays⟩ := ihrest hs.pin
    refine ⟨hquiet, fun n hn => ?_⟩
    rcases List.mem_cons.1 hn with rfl | hn
    · exact .inr (hrest.guarded_subset List.mem_cons_self)
    · exact hstays n hn
  | @restored active name tag body body' rest rest' s s₁ s₂ hcount ha hb hbody hp hrest ihbody
      ihrest =>
    obtain ⟨hquiet₁, hstays₁⟩ := ihbody hs.takeOut
    rw [Rule.includesList_singleton] at hstays₁
    have hback : Quiet counts settled (putBack name body' s₁) :=
      (hquiet₁.putBack hstays₁).weaken fun m hm => .inr hm
    obtain ⟨hquiet₂, hstays₂⟩ := ihrest hback
    refine ⟨hquiet₂, fun n hn => ?_⟩
    rcases List.mem_cons.1 hn with rfl | hn
    · exact .inr (hrest.guarded_subset (hquiet₁.pinned hp))
    · exact hstays₂ n hn
  | @inlined active name tag body body' rest rest' s s₁ s₂ hcount ha hb hbody hp hrest ihbody
      ihrest =>
    obtain ⟨hquiet₁, hstays₁⟩ := ihbody hs.takeOut
    rw [Rule.includesList_singleton] at hstays₁
    obtain ⟨hquiet₂, hstays₂⟩ := ihrest ⟨hquiet₁.stays, hquiet₁.pinned⟩
    refine ⟨hquiet₂, fun n hn => ?_⟩
    rcases List.mem_append.1 hn with hn | hn
    · exact (hstays₁ n hn).mono hrest.guarded_subset
    · exact hstays₂ n hn

theorem Visits.quiet (h : Visits counts names s s') (hs : Quiet counts settled s) :
    Quiet counts (fun m => m ∈ names ∨ settled m) s' := by
  induction h generalizing settled with
  | nil => exact hs.weaken fun m hm => hm.resolve_left List.not_mem_nil
  | @gone name rest s s₁ hb hrest ih =>
    -- A name without an entry may count as settled.
    have hgone : Quiet counts (fun m => m = name ∨ settled m) s := by
      refine ⟨fun m b hm hbody => ?_, hs.pinned⟩
      refine hs.stays m b (hm.resolve_left fun he => ?_) hbody
      rw [he, hb] at hbody
      cases hbody
    refine (ih hgone).weaken fun m hm => ?_
    rw [List.mem_cons] at hm
    tauto
  | @settled name rest body body' s s₁ s₂ hb hbody hrest ih =>
    obtain ⟨hquiet, hstays⟩ := hbody.quiet hs.takeOut
    rw [Rule.includesList_singleton] at hstays
    refine (ih (hquiet.putBack hstays)).weaken fun m hm => ?_
    rw [List.mem_cons] at hm
    tauto

end Quiet

/-- A mention goes only when its name is inlined. -/
theorem Conserves.mentions_perm {rs rs' : List Rule} {s s' : State}
    (h : Conserves counts rs s rs' s') :
    (Repository.mentions (s'.repository.filter fun name _ => counts.get name ≠ 0) rs' ++
        s'.inlined).Perm
      (Repository.mentions (s.repository.filter fun name _ => counts.get name ≠ 0) rs ++
        s.inlined) := by
  obtain ⟨removed, hremoved, hperm⟩ := h.perm
  have hinlined : s'.inlined = s.inlined ++ removed.filterMap Rule.reference? := by
    have hid := congrArg (List.filterMap id) hremoved
    simpa [List.filterMap_map] using hid
  have hnames := hperm.filterMap Rule.reference?
  rw [List.filterMap_append, ← Repository.mentions_eq_filterMap,
    ← Repository.mentions_eq_filterMap] at hnames
  have hswap : (s.inlined ++ removed.filterMap Rule.reference?).Perm
      (removed.filterMap Rule.reference? ++ s.inlined) := List.perm_append_comm
  rw [hinlined]
  refine (hswap.append_left _).trans ?_
  rw [← List.append_assoc]
  exact hnames.append_right s.inlined

section Pass

variable {patterns rules : List Rule} {repository : Repository} {s : State} {name : String}

theorem pass_once (h : (pass counts patterns repository).run { repository } = .ok (rules, s)) :
    Once counts [] s :=
  (pass_preserves (invariant_once counts (places_start_le repository)) h
    ⟨rfl, ⟨nofun, nofun⟩⟩).2

/-- An entry that has not been inlined is still there, and none that has been is. -/
theorem pass_isSome_iff (h : (pass counts patterns repository).run { repository } = .ok (rules, s))
    (hkey : name ∈ repository.keys) :
    (s.repository.get? name).isSome ↔ name ∉ s.inlined := by
  have hplaces : places [] s name = 1 := by
    rw [pass_places h, places_start, if_pos (Table.mem_keys_iff.1 hkey)]
  unfold places at hplaces
  rw [List.count_nil, Nat.add_zero] at hplaces
  constructor
  · intro hsome hin
    have hcount := List.count_pos_iff.2 hin
    rw [if_pos hsome] at hplaces
    omega
  · intro hin
    have hcount := List.count_eq_zero.2 hin
    by_contra hnone
    rw [if_neg hnone] at hplaces
    omega

theorem pass_mem_keys (h : (pass counts patterns repository).run { repository } = .ok (rules, s))
    (hsome : (s.repository.get? name).isSome) : name ∈ repository.keys := by
  have hplaces := congrFun (pass_places h) name
  rw [places_start, places, if_pos hsome] at hplaces
  refine Table.mem_keys_iff.2 ?_
  by_contra hnone
  rw [if_neg hnone] at hplaces
  omega

/-- Each inlined name is mentioned once less, and no mention else comes or goes. -/
theorem pass_mentions_perm
    (h : (pass counts patterns repository).run { repository } = .ok (rules, s)) :
    (Repository.mentions (s.repository.filter fun name _ => counts.get name ≠ 0) rules ++
        s.inlined).Perm
      (Repository.mentions (repository.filter fun name _ => counts.get name ≠ 0) patterns) := by
  have hperm := (pass_conserves h).mentions_perm
  rwa [List.append_nil] at hperm

/-- No include comes from anywhere but the patterns and bodies before the pass. -/
theorem pass_mentions_subset
    (h : (pass counts patterns repository).run { repository } = .ok (rules, s)) :
    Repository.mentions (s.repository.filter fun name _ => counts.get name ≠ 0) rules ⊆
      repository.mentions patterns := by
  intro n hn
  have hbefore := (pass_mentions_perm h).subset (List.mem_append_left s.inlined hn)
  rw [Repository.mem_mentions] at hbefore ⊢
  refine hbefore.imp_right fun ⟨user, body, hb, hn⟩ => ⟨user, body, ?_, hn⟩
  rw [Table.get?_filter] at hb
  exact (Option.filter_eq_some_iff.1 hb).1

theorem pass_stays (h : (pass counts patterns repository).run { repository } = .ok (rules, s))
    (hn : name ∈ Repository.mentions
      (s.repository.filter fun name _ => counts.get name ≠ 0) rules) : Stays counts s name := by
  obtain ⟨s₁, hpatterns, hentries⟩ := pass_eq_ok h
  have hstart : Quiet counts (fun _ => False) { repository } := ⟨nofun, List.Subset.refl _⟩
  obtain ⟨hquiet₁, hstays⟩ := hpatterns.quiet hstart
  have hquiet := hentries.quiet hquiet₁
  rcases Repository.mem_mentions.1 hn with hn | ⟨user, body, hb, hn⟩
  · exact (hstays name hn).mono hentries.guarded_subset
  · rw [Table.get?_filter, Option.filter_eq_some_iff, decide_eq_true_eq] at hb
    obtain ⟨hb, hused⟩ := hb
    have hkey := pass_mem_keys h (by rw [hb]; rfl)
    have hvisited : user ∈ repository.keys.filter fun name => 0 < counts.get name :=
      List.mem_filter.2 ⟨hkey, by simpa [Nat.pos_iff_ne_zero] using hused⟩
    exact hquiet.stays user body (.inl hvisited) hb name hn

/-- If the guard has not stepped in, no include of a name used once is left. -/
theorem pass_get_ne_one (h : (pass counts patterns repository).run { repository } = .ok (rules, s))
    (hguarded : s.guarded = [])
    (hn : name ∈ Repository.mentions
      (s.repository.filter fun name _ => counts.get name ≠ 0) rules) : counts.get name ≠ 1 := by
  refine (pass_stays h hn).resolve_right ?_
  rw [hguarded]
  exact List.not_mem_nil

theorem mem_keys_filter {keep : String → Bool} {t : Repository} :
    name ∈ Table.keys (t.filter fun name _ => keep name) ↔ name ∈ t.keys ∧ keep name := by
  rw [Table.keys_filter, List.mem_filter]

/-- An include without an entry is one that was left for the guard, and its entry went later. -/
theorem pass_dangling (h : (pass counts patterns repository).run { repository } = .ok (rules, s))
    (hkey : name ∈ repository.keys) (hused : 0 < counts.get name)
    (hn : name ∈ Repository.mentions
      (s.repository.filter fun name _ => counts.get name ≠ 0) rules)
    (habsent : name ∉ Table.keys (s.repository.filter fun name _ => counts.get name ≠ 0)) :
    name ∈ s.guarded ∧ name ∈ s.inlined := by
  have hin : name ∈ s.inlined := by
    by_contra hin
    have hentry := Table.mem_keys_iff.2 ((pass_isSome_iff h hkey).2 hin)
    exact habsent (mem_keys_filter.2 ⟨hentry, by simpa [Nat.pos_iff_ne_zero] using hused⟩)
  have hcount : counts.get name = 1 := (pass_once h).inlined name hin
  exact ⟨(pass_stays h hn).resolve_left (not_not_intro hcount), hin⟩

theorem pass_guarded (h : (pass counts patterns repository).run { repository } = .ok (rules, s))
    (hn : name ∈ s.guarded) : counts.get name = 1 ∧ name ∈ repository.keys := by
  obtain ⟨hcount, hplace⟩ := (pass_once h).guarded name hn
  refine ⟨hcount, Table.mem_keys_iff.2 ?_⟩
  rw [pass_places h, places_start] at hplace
  by_contra habsent
  rw [if_neg habsent] at hplace
  omega

theorem findingOf?_once (hcount : counts.get name = 1) :
    findingOf? counts name = some ⟨.singleUse, name⟩ := by
  simp only [findingOf?, hcount]

/--
Of the includes of entries in use, a compaction leaves without an entry only some whose name was
pinned and later inlined all the same. So every include leads to an entry and every pinned name
stays behind with a finding exactly if no pinned name is inlined.
-/
theorem resolved_iff_of_ofCounts (counts : UseCounts) (patterns : List Rule)
    (repository : Repository) (c : Compaction)
    (hmentions : ∀ name ∈ repository.mentions patterns,
      name ∈ repository.keys ∧ 0 < counts.get name)
    (h : ofCounts counts patterns repository = .ok c) :
    ∃ s, (pass counts patterns repository).run { repository } = .ok (c.patterns, s) ∧
      (∀ name ∈ c.repository.mentions c.patterns, name ∉ c.repository.keys →
        name ∈ s.guarded ∧ name ∈ c.inlined) ∧
      ((∀ name ∈ c.repository.mentions c.patterns, name ∈ c.repository.keys) ∧
          (∀ name ∈ s.guarded, name ∈ c.repository.keys ∧ ⟨.singleUse, name⟩ ∈ c.findings) ↔
        ∀ name ∈ s.guarded, name ∉ c.inlined) := by
  obtain ⟨s, hrun, hrepository, hinlined, -, hfindings⟩ := ofCounts_eq_ok h
  have hdangling : ∀ name ∈ c.repository.mentions c.patterns, name ∉ c.repository.keys →
      name ∈ s.guarded ∧ name ∈ c.inlined := by
    intro name hn habsent
    rw [hrepository] at hn habsent
    rw [hinlined]
    obtain ⟨hkey, hused⟩ := hmentions name (pass_mentions_subset hrun hn)
    exact pass_dangling hrun hkey hused hn habsent
  refine ⟨s, hrun, hdangling, ?_, ?_⟩
  · rintro ⟨-, hguarded⟩ name hn hin
    obtain ⟨-, hkey⟩ := pass_guarded hrun hn
    have hentry := (hguarded name hn).1
    rw [hrepository, mem_keys_filter, Table.mem_keys_iff, pass_isSome_iff hrun hkey] at hentry
    exact hentry.1 (hinlined ▸ hin)
  · intro hnone
    refine ⟨fun name hn => ?_, fun name hn => ?_⟩
    · by_contra habsent
      obtain ⟨hguarded, hin⟩ := hdangling name hn habsent
      exact hnone name hguarded hin
    · obtain ⟨hcount, hkey⟩ := pass_guarded hrun hn
      have hin : name ∉ s.inlined := hinlined ▸ hnone name hn
      have hentry := Table.mem_keys_iff.2 ((pass_isSome_iff hrun hkey).2 hin)
      rw [hrepository, hfindings]
      exact ⟨mem_keys_filter.2 ⟨hentry, by simp [hcount]⟩,
        List.mem_filterMap.2 ⟨name, hentry, findingOf?_once hcount⟩⟩

end Pass

end Compaction

/-- An entry that includes itself. -/
def Repository.looped : Repository := .ofList [("block", Rule.alternatives ["#block"])]

def UseCounts.looped : UseCounts := .ofList [("block", 1)]

def Compaction.looped : Compaction where
  patterns := Rule.includingAll ["#block"]
  repository := .looped
  inlined := []
  pruned := []
  findings := [⟨.singleUse, "block"⟩]

theorem Compaction.resolved_iff_of_ofCounts_looped :
    (∀ name ∈ Repository.looped.mentions (Rule.includingAll ["#block"]),
      name ∈ Repository.looped.keys ∧ 0 < UseCounts.looped.get name) ∧
    ofCounts .looped (Rule.includingAll ["#block"]) .looped = .ok .looped ∧
    ∃ s, (pass .looped (Rule.includingAll ["#block"]) .looped).run { repository := .looped } =
        .ok (Compaction.looped.patterns, s) ∧
      (∀ name ∈ Compaction.looped.repository.mentions Compaction.looped.patterns,
        name ∉ Compaction.looped.repository.keys →
          name ∈ s.guarded ∧ name ∈ Compaction.looped.inlined) ∧
      ((∀ name ∈ Compaction.looped.repository.mentions Compaction.looped.patterns,
            name ∈ Compaction.looped.repository.keys) ∧
          (∀ name ∈ s.guarded, name ∈ Compaction.looped.repository.keys ∧
            ⟨.singleUse, name⟩ ∈ Compaction.looped.findings) ↔
        ∀ name ∈ s.guarded, name ∉ Compaction.looped.inlined) :=
  have hmentions : ∀ name ∈ Repository.looped.mentions (Rule.includingAll ["#block"]),
      name ∈ Repository.looped.keys ∧ 0 < UseCounts.looped.get name := by decide +kernel
  have h : ofCounts .looped (Rule.includingAll ["#block"]) .looped = .ok .looped := by cbv
  ⟨hmentions, h, resolved_iff_of_ofCounts _ _ _ _ hmentions h⟩

/--
Two pinned names may come back as entries and one of them be inlined in the other after all. Then
its include in the patterns leads nowhere, and nothing is found about it.
-/
theorem Compaction.unresolved_of_ofCounts_tangled :
    (∀ name ∈ Repository.tangled.mentions (Rule.includingAll ["#block"]),
      name ∈ Repository.tangled.keys ∧ 0 < UseCounts.tangled.get name) ∧
    ofCounts .tangled (Rule.includingAll ["#block"]) .tangled = .ok .tangled ∧
    "block" ∈ Compaction.tangled.repository.mentions Compaction.tangled.patterns ∧
    "block" ∉ Compaction.tangled.repository.keys ∧
    ∃ s, (pass .tangled (Rule.includingAll ["#block"]) .tangled).run { repository := .tangled } =
        .ok (Compaction.tangled.patterns, s) ∧
      "block" ∈ s.guarded ∧ ⟨.singleUse, "block"⟩ ∉ Compaction.tangled.findings := by
  have h : ofCounts .tangled (Rule.includingAll ["#block"]) .tangled = .ok .tangled := by cbv
  have hmention : "block" ∈ Compaction.tangled.repository.mentions Compaction.tangled.patterns := by
    decide +kernel
  have habsent : "block" ∉ Compaction.tangled.repository.keys := by decide +kernel
  obtain ⟨s, hrun, hrepository, -⟩ := ofCounts_eq_ok h
  have hpinned : "block" ∈ s.guarded := by
    rw [hrepository] at hmention habsent
    exact (pass_dangling hrun (by decide +kernel) (by decide +kernel) hmention habsent).1
  exact ⟨by decide +kernel, h, hmention, habsent, s, hrun, hpinned, by decide +kernel⟩

end TextMate
