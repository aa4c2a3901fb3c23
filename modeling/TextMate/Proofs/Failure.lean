import TextMate.Proofs.Calls
import TextMate.Proofs.Guard

/-!
Why a compaction fails, given any counts at all. An entry may be out of the repository for a while
because its body is under way, and come back; but an include that is met meanwhile and does not find
its entry comes after another one that has used it up.
-/
namespace TextMate

namespace Compaction

/-- The includes of a name in the rules ahead and in the entries in use, and those inlined so far. -/
def Machine.uses (counts : UseCounts) (m : Machine) (rs : List Rule) (name : String) : Nat :=
  (Rule.includesList rs).count name + liveUses counts m.state.repository name +
    m.state.inlined.count name

/-- On the way from some rules to others no name is moved and no include is added. -/
structure Leads (counts : UseCounts) (m : Machine) (rs : List Rule) (m' : Machine)
    (rs' : List Rule) : Prop where
  places_eq : places m'.active m'.state = places m.active m.state
  uses_le : ∀ name, m'.uses counts rs' name ≤ m.uses counts rs name

section Leads

variable {counts : UseCounts} {m m₁ m' : Machine} {rs rs₁ rs' : List Rule} {name : String}
  {active : List String} {body : Rule}

theorem Leads.trans (h : Leads counts m rs m₁ rs₁) (h' : Leads counts m₁ rs₁ m' rs') :
    Leads counts m rs m' rs' where
  places_eq := h'.places_eq.trans h.places_eq
  uses_le name := (h'.uses_le name).trans (h.uses_le name)

/-- Rules may be left out. -/
theorem leads_of_sublist (h : rs'.Sublist rs) : Leads counts m rs m rs' where
  places_eq := rfl
  uses_le name := by
    have hincludes : (Rule.includesList rs').Sublist (Rule.includesList rs) := by
      rw [Rule.includesList_eq_flatMap, Rule.includesList_eq_flatMap]
      exact h.flatMap _
    have hcount := hincludes.count_le name
    unfold Machine.uses
    omega

variable (rest : List Rule)

theorem leads_behind (r : Rule) : Leads counts m (r :: rest) m rest :=
  leads_of_sublist (List.sublist_cons_self r rest)

theorem leads_children {r : Rule} (href : r.reference? = none) :
    Leads counts m (r :: rest) m (r.children ++ rest) where
  places_eq := rfl
  uses_le name := by
    rw [Machine.uses, Machine.uses, Rule.includesList, Rule.includes_eq_children href,
      Rule.includesList_append]

/-- The body of an entry that goes under way is ahead of the rules. -/
theorem leads_enter (hused : 0 < counts.get name) (hb : m.state.repository.get? name = some body) :
    Leads counts m rest (m.enter name) (body :: rest) where
  places_eq := places_takeOut m.active hb
  uses_le n := by
    have hlive := liveUses_erase hb hused n
    simp only [Machine.uses, Machine.enter, takeOut, Rule.includesList, List.count_append]
    omega

theorem leads_restore (hused : 0 < counts.get name) (hstack : m.active = name :: active)
    (hone : ∀ n, places m.active m.state n ≤ 1) (body : Rule) :
    Leads counts m (body :: rest) (m.restore name body) rest := by
  obtain ⟨stack, s⟩ := m
  obtain rfl : stack = name :: active := hstack
  have hb : s.repository.get? name = none := get?_of_active hone List.mem_cons_self
  constructor
  · exact places_putBack active body hb
  · intro n
    have hlive : liveUses counts (s.repository.insert name body) n = _ :=
      liveUses_insert hb hused n
    simp only [Machine.uses, Machine.update, Machine.leave, putBack, Rule.includesList,
      List.count_append]
    omega

theorem leads_inline (hstack : m.active = name :: active) (tag : Option String) :
    Leads counts m (.reference (.entry name) tag :: rest) (m.inline name) rest := by
  obtain ⟨stack, s⟩ := m
  obtain rfl : stack = name :: active := hstack
  constructor
  · exact places_inlined active name s
  · intro n
    simp only [Machine.uses, Machine.update, Machine.leave, Rule.includesList, Rule.includes,
      Include.names, List.count_append]
    omega

/-- Includes that are done stay or are counted as inlined. -/
theorem Ends.leads (h : Ends counts m rs m' (.ok rs')) (hone : ∀ n, places m.active m.state n ≤ 1) :
    Leads counts m (rs ++ rest) m' (rs' ++ rest) := by
  have hrewrites : Rewrites counts m.active rs m.state rs' m'.state :=
    rewrites_of_expand (h.run_eq (Nat.le_refl _))
  constructor
  · rw [h.active_eq]
    exact hrewrites.places_eq hone
  · intro name
    have hmentions := (hrewrites.conserves hone).mentions_perm.count_eq name
    rw [List.count_append, List.count_append, Repository.count_mentions_used,
      Repository.count_mentions_used] at hmentions
    simp only [Machine.uses, liveUses, Rule.includesList_append, List.count_append]
    omega

/-- An entry that has its compacted body again is where it was. -/
theorem Ends.leads_restore {body' : Rule} (h : Ends counts (m.enter name) [body] m' (.ok [body']))
    (hused : 0 < counts.get name) (hb : m.state.repository.get? name = some body)
    (hone : ∀ n, places m.active m.state n ≤ 1) :
    Leads counts m rest (m'.restore name body') rest := by
  have henter := leads_enter rest hused hb
  have hdone : Leads counts m rest m' (body' :: rest) :=
    henter.trans (h.leads rest (by rwa [henter.places_eq]))
  exact hdone.trans (Compaction.leads_restore rest hused h.active_eq (by rwa [hdone.places_eq]) body')

end Leads

/--
A reason for an error at some rules: a name counted once has no place from the beginning, or there
is more than one include of it.
-/
def Excused (counts : UseCounts) (m : Machine) (rs : List Rule) (e : GrammarError) : Prop :=
  ∃ name, e = .unresolved name ∧ counts.get name = 1 ∧
    (places m.active m.state name = 0 ∨ 2 ≤ m.uses counts rs name)

section Excused

variable {counts : UseCounts} {m m' : Machine} {rs rs' : List Rule} {e : GrammarError}

/-- What excuses an error has been there before. -/
theorem Excused.before (h : Excused counts m' rs' e) (hleads : Leads counts m rs m' rs') :
    Excused counts m rs e := by
  obtain ⟨name, he, hcount, hreason⟩ := h
  have huses := hleads.uses_le name
  refine ⟨name, he, hcount, ?_⟩
  rw [← hleads.places_eq]
  omega

/-- An entry that is missing although its body is not under way has been inlined before. -/
theorem excused_missing {name : String} (hcount : counts.get name = 1) (hactive : name ∉ m.active)
    (hb : m.state.repository.get? name = none) (tag : Option String) (rest : List Rule) :
    Excused counts m (.reference (.entry name) tag :: rest) (.unresolved name) := by
  have hgone := List.count_eq_zero.2 hactive
  refine ⟨name, rfl, hcount, ?_⟩
  simp only [places, Machine.uses, hb, hgone, Rule.includesList, Rule.includes, Include.names,
    List.count_append, List.count_singleton_self, Option.isSome_none, Bool.false_eq_true, if_false]
  omega

theorem Ends.excused {result : Except GrammarError (List Rule)} (h : Ends counts m rs m' result)
    (herror : result = .error e) (hone : ∀ n, places m.active m.state n ≤ 1) :
    Excused counts m rs e := by
  induction h with
  | nil => cases herror
  | @inside m m₁ m₂ r r' rest result href hchildren hnode hrest ihchildren ihrest =>
    have hrule := (leads_children rest href).trans (hchildren.leads rest hone)
    have hbehind := hrule.trans (leads_of_sublist (List.sublist_append_right r'.children rest))
    exact (ihrest (map_eq_error herror) (by rwa [hbehind.places_eq])).before hbehind
  | @insideFails m m₁ r rest e' href hchildren ih =>
    have hinside : Leads counts m (r :: rest) m r.children :=
      (leads_children rest href).trans
        (leads_of_sublist (List.sublist_append_left r.children rest))
    exact (ih herror hone).before hinside
  | kept hcount hrest ih => exact (ih (map_eq_error herror) hone).before (leads_behind _ _)
  | @pinned m m₁ name tag rest result hcount hactive hrest ih =>
    have hpin : Leads counts m rest (m.update (pin name)) rest := ⟨rfl, fun n => Nat.le_refl _⟩
    exact (ih (map_eq_error herror) hone).before ((leads_behind rest _).trans hpin)
  | @missing m name tag rest hcount hactive hb =>
    cases herror
    exact excused_missing hcount hactive hb tag rest
  | @bodyFails m m₁ name tag body rest e' hcount hactive hb hbody ih =>
    have henter : Leads counts m (.reference (.entry name) tag :: rest) (m.enter name) [body] :=
      (leads_enter _ (by omega) hb).trans
        (leads_of_sublist (List.singleton_sublist.2 List.mem_cons_self))
    exact (ih herror (by rwa [henter.places_eq])).before henter
  | @restored m m₁ m₂ name tag body body' rest result hcount hactive hb hbody hpinned hrest ihbody
      ihrest =>
    have hback := hbody.leads_restore rest (by omega) hb hone
    exact (ihrest (map_eq_error herror) (by rwa [hback.places_eq])).before
      ((leads_behind rest _).trans hback)
  | @inlined m m₁ m₂ name tag body body' rest result hcount hactive hb hbody hpinned hrest ihbody
      ihrest =>
    -- The include goes along, because it is what is counted as inlined in the end.
    have henter : Leads counts m _ (m.enter name) _ :=
      leads_enter (.reference (.entry name) tag :: rest) (by omega) hb
    have hdone := henter.trans (hbody.leads _ (by rwa [henter.places_eq]))
    have hout := hdone.trans (leads_behind _ body')
    have hbehind := hout.trans (leads_inline rest hbody.active_eq tag)
    exact (ihrest (map_eq_error herror) (by rwa [hbehind.places_eq])).before hbehind

end Excused

section Pass

variable {counts : UseCounts} {patterns done rest : List Rule} {repository : Repository}
  {m : Machine} {names : List String}

theorem Leads.places_le {rs : List Rule} (h : Leads counts (.start repository) patterns m rs)
    (name : String) : places m.active m.state name ≤ 1 := by
  rw [h.places_eq]
  exact places_start_le repository name

theorem Paused.leads (h : Paused counts patterns repository m done rest names) :
    (∀ name ∈ names, 0 < counts.get name) ∧ Leads counts (.start repository) patterns m rest := by
  induction h with
  | start =>
    refine ⟨fun name hn => ?_, leads_of_sublist (List.Sublist.refl _)⟩
    simpa using (List.mem_filter.1 hn).2
  | @pattern m m' done rest r r' names h hr ih =>
    obtain ⟨hused, hleads⟩ := ih
    have hdone := hleads.trans (hr.leads rest hleads.places_le)
    exact ⟨hused, hdone.trans (leads_behind rest r')⟩
  | gone h hb ih => exact ⟨fun name hn => ih.1 name (List.mem_cons_of_mem _ hn), ih.2⟩
  | settled h hb hbody ih =>
    obtain ⟨hused, hleads⟩ := ih
    obtain ⟨hname, hnames⟩ := List.forall_mem_cons.1 hused
    exact ⟨hnames, hleads.trans (hbody.leads_restore [] hname hb hleads.places_le)⟩

/-- No call meets an include that was not there in the beginning. -/
theorem Called.leads {depth : Nat} {r : Rule} (h : Called counts patterns repository depth m r) :
    Leads counts (.start repository) patterns m [r] := by
  induction h with
  | @pattern m done rest r names h =>
    exact h.leads.2.trans (leads_of_sublist (List.singleton_sublist.2 List.mem_cons_self))
  | entry h hb =>
    obtain ⟨hused, hleads⟩ := h.leads
    exact hleads.trans (leads_enter [] (hused _ List.mem_cons_self) hb)
  | @child depth m m' r c before after rules h href hsplit hbefore ih =>
    have hinside := ih.trans (leads_children [] href)
    rw [List.append_nil, hsplit] at hinside
    have hdone := hinside.trans (hbefore.leads _ hinside.places_le)
    have hchild : [c].Sublist (rules ++ c :: after) :=
      List.singleton_sublist.2 (List.mem_append_right rules List.mem_cons_self)
    exact hdone.trans (leads_of_sublist hchild)
  | body h hcount hactive hb ih =>
    have henter := ih.trans (leads_behind [] _)
    exact henter.trans (leads_enter [] (by omega) hb)

/--
Compaction fails only because of an include whose name is counted once, although the name has no
entry or there are two includes of it at least in the patterns and in the bodies of the entries in
use.
-/
theorem unresolved_of_ofCounts (counts : UseCounts) (patterns : List Rule)
    (repository : Repository) (e : GrammarError)
    (h : ofCounts counts patterns repository = .error e) :
    ∃ name, e = .unresolved name ∧ counts.get name = 1 ∧
      (name ∉ repository.keys ∨
        2 ≤ (Repository.mentions (repository.filter fun user _ => counts.get user ≠ 0)
          patterns).count name) := by
  unfold ofCounts ofCountsM at h
  rcases pass_paused counts patterns repository with ⟨rules, m, hrun, -⟩ |
    ⟨e', depth, m, r, m', hrun, hcalled, hfails⟩
  · rw [hrun] at h
    cases h
  · rw [hrun] at h
    cases h
    have hleads := hcalled.leads
    obtain ⟨name, he, hcount, hreason⟩ := (hfails.excused rfl hleads.places_le).before hleads
    refine ⟨name, he, hcount, ?_⟩
    rw [Repository.count_mentions_used, Table.mem_keys_iff]
    apply hreason.imp_left
    intro hplace hentry
    have hstart := places_start repository name
    rw [if_pos hentry] at hstart
    exact absurd (hstart.symm.trans hplace) Nat.one_ne_zero

end Pass

end Compaction

/-- An entry that is counted once. -/
def Repository.keyword : Repository := .ofList [("keyword", .leaf { pattern := "let" })]

def UseCounts.keyword : UseCounts := .ofList [("keyword", 1)]

/-- The first include uses the entry up, and the second one does not find it. -/
theorem Compaction.unresolved_of_ofCounts_keyword :
    ofCounts .keyword (Rule.includingAll ["#keyword", "#keyword"]) .keyword =
      .error (.unresolved "keyword") ∧
    ∃ name, GrammarError.unresolved "keyword" = .unresolved name ∧
      UseCounts.keyword.get name = 1 ∧
      (name ∉ Repository.keyword.keys ∨
        2 ≤ (Repository.mentions
          (Repository.keyword.filter fun user _ => UseCounts.keyword.get user ≠ 0)
          (Rule.includingAll ["#keyword", "#keyword"])).count name) :=
  have h : ofCounts .keyword (Rule.includingAll ["#keyword", "#keyword"]) .keyword =
      .error (.unresolved "keyword") := by cbv
  ⟨h, unresolved_of_ofCounts _ _ _ _ h⟩

end TextMate
