import TextMate.Proofs.Rewriting
import TextMate.Proofs.Table

/-!
What no pass can change, given any counts at all. Every name is in one place: it has an entry, or it
is active, or it was inlined. Every rule but the includes that were inlined is somewhere afterwards.
-/
namespace TextMate

/-- Everything that the bodies of the entries consist of. -/
def Repository.nodes (repository : Repository) : List Rule :=
  repository.entries.flatMap fun e => e.2.nodes

namespace Compaction

variable {counts : UseCounts}

/-- The number of places in which a name is. -/
def places (active : List String) (s : State) (name : String) : Nat :=
  (if (s.repository.get? name).isSome then 1 else 0) + active.count name + s.inlined.count name

/-- The number of times a node occurs in the entries in use. -/
def stock (counts : UseCounts) (repository : Repository) (node : Rule) : Nat :=
  repository.total fun name body => if counts.get name = 0 then 0 else body.nodes.count node

section Moves

variable (active : List String) {name : String} {body : Rule} {s : State}

theorem places_takeOut (hb : s.repository.get? name = some body) :
    places (name :: active) (takeOut name s) = places active s := by
  funext n
  unfold places takeOut
  simp only [Table.get?_erase]
  by_cases hn : n = name
  · rw [hn, if_pos rfl, hb, List.count_cons_self]
    simp only [Option.isSome_none, Option.isSome_some, Bool.false_eq_true, if_false, if_true]
    omega
  · rw [if_neg hn, List.count_cons_of_ne (Ne.symm hn)]

theorem places_putBack (body : Rule) (hb : s.repository.get? name = none) :
    places active (putBack name body s) = places (name :: active) s := by
  funext n
  unfold places putBack
  simp only [Table.get?_insert]
  by_cases hn : n = name
  · rw [hn, if_pos rfl, hb, List.count_cons_self]
    simp only [Option.isSome_none, Option.isSome_some, Bool.false_eq_true, if_false, if_true]
    omega
  · rw [if_neg hn, List.count_cons_of_ne (Ne.symm hn)]

theorem places_inlined (name : String) (s : State) :
    places active { s with inlined := s.inlined ++ [name] } = places (name :: active) s := by
  funext n
  unfold places
  dsimp only
  rw [List.count_append, List.count_singleton, List.count_cons]
  omega

variable {active}

/-- A name under way has no entry. -/
theorem get?_of_active (hone : ∀ n, places active s n ≤ 1) (ha : name ∈ active) :
    s.repository.get? name = none := by
  have hplace := hone name
  have hcount := List.count_pos_iff.2 ha
  unfold places at hplace
  by_contra hne
  rw [if_pos (Option.isSome_iff_ne_none.2 hne)] at hplace
  omega

theorem stock_takeOut (hb : s.repository.get? name = some body) (hu : counts.get name ≠ 0)
    (node : Rule) : stock counts s.repository node =
      stock counts (takeOut name s).repository node + body.nodes.count node := by
  have htotal := Table.total_erase
    (fun n b => if counts.get n = 0 then 0 else (Rule.nodes b).count node) hb
  rwa [if_neg hu] at htotal

theorem stock_putBack (body : Rule) (hb : s.repository.get? name = none) (hu : counts.get name ≠ 0)
    (node : Rule) : stock counts (putBack name body s).repository node =
      stock counts s.repository node + body.nodes.count node := by
  unfold stock putBack
  rw [Table.total_insert _ hb, if_neg hu]

end Moves

section Runs

variable {active names : List String} {name : String} {body body' : Rule} {rs rs' : List Rule}
  {s s₁ s' : State}

variable (counts) in
/-- Names change their places, but none gets or loses one. -/
theorem invariant_places {p : String → Nat} (hone : ∀ n, p n ≤ 1) :
    Invariant counts fun active s => places active s = p where
  pin hcount ha h := h
  takeOut hb h := (places_takeOut _ hb).trans h
  putBack {active name s} body h := by
    have hnone := get?_of_active (by rwa [h]) List.mem_cons_self
    exact (places_putBack active body hnone).trans h
  inline {active name s} hcount h := (places_inlined active name s).trans h

theorem Rewrites.places_eq (h : Rewrites counts active rs s rs' s')
    (hone : ∀ n, places active s n ≤ 1) : places active s' = places active s :=
  h.preserves (invariant_places counts hone) rfl

/-- The entry is still out of the repository when its body is done. -/
theorem Rewrites.entered (hb : s.repository.get? name = some body)
    (h : Rewrites counts (name :: active) [body] (takeOut name s) [body'] s₁)
    (hone : ∀ n, places active s n ≤ 1) :
    places (name :: active) s₁ = places active s ∧ s₁.repository.get? name = none := by
  have htaken := places_takeOut active hb
  have hafter := (h.places_eq (by rwa [htaken])).trans htaken
  exact ⟨hafter, get?_of_active (by rwa [hafter]) List.mem_cons_self⟩

/--
Between two states some includes have been removed, one for each name inlined meanwhile and in the
same order, and all other nodes are still there, in rules or in the entries in use.
-/
def Conserves (counts : UseCounts) (rs : List Rule) (s : State) (rs' : List Rule) (s' : State) :
    Prop :=
  ∃ removed : List Rule,
    s'.inlined.map some = s.inlined.map some ++ removed.map Rule.reference? ∧
    ∀ node, (Rule.nodesList rs').count node + stock counts s'.repository node +
      removed.count node = (Rule.nodesList rs).count node + stock counts s.repository node

section Conserves

variable {r : Rule} {ss ss' : List Rule}

variable (counts) in
theorem Conserves.refl (rs : List Rule) (s : State) : Conserves counts rs s rs s :=
  ⟨[], by simp, by simp⟩

theorem Conserves.append (h : Conserves counts rs s rs' s₁) (h' : Conserves counts ss s₁ ss' s') :
    Conserves counts (rs ++ ss) s (rs' ++ ss') s' := by
  obtain ⟨removed₁, hinlined₁, hcount₁⟩ := h
  obtain ⟨removed₂, hinlined₂, hcount₂⟩ := h'
  refine ⟨removed₁ ++ removed₂, ?_, fun node => ?_⟩
  · rw [hinlined₂, hinlined₁, List.map_append, List.append_assoc]
  · have h₁ := hcount₁ node
    have h₂ := hcount₂ node
    simp only [Rule.nodesList_append, List.count_append]
    omega

/-- The node of a rule stays with its children. -/
theorem Conserves.inside {r' : Rule} (hnode : r'.withoutChildren = r.withoutChildren)
    (h : Conserves counts r.children s r'.children s') : Conserves counts [r] s [r'] s' := by
  obtain ⟨removed, hinlined, hcount⟩ := h
  refine ⟨removed, hinlined, fun node => ?_⟩
  have h := hcount node
  simp only [Rule.nodesList, Rule.nodes_eq, hnode, List.append_nil, List.count_cons]
  omega

/-- An entry gives up its body and has it again. -/
theorem Conserves.restore (hu : counts.get name ≠ 0) (hb : s.repository.get? name = some body)
    (hnone : s₁.repository.get? name = none)
    (h : Conserves counts [body] (takeOut name s) [body'] s₁) :
    Conserves counts [] s [] (putBack name body' s₁) := by
  obtain ⟨removed, hinlined, hcount⟩ := h
  refine ⟨removed, hinlined, fun node => ?_⟩
  have h := hcount node
  have hout := stock_takeOut hb hu node
  have hback := stock_putBack body' hnone hu node
  simp only [Rule.nodesList, List.append_nil, List.count_nil] at h ⊢
  omega

/-- An entry gives up its body to the place of an include, which is removed. -/
theorem Conserves.inline (tag : Option String) (hu : counts.get name ≠ 0)
    (hb : s.repository.get? name = some body)
    (h : Conserves counts [body] (takeOut name s) [body'] s₁) :
    Conserves counts [.reference (.entry name) tag] s [body']
      { s₁ with inlined := s₁.inlined ++ [name] } := by
  obtain ⟨removed, hinlined, hcount⟩ := h
  refine ⟨removed ++ [.reference (.entry name) tag], ?_, fun node => ?_⟩
  · rw [List.map_append, hinlined, List.map_append, List.append_assoc]
    rfl
  · have h := hcount node
    have hout := stock_takeOut hb hu node
    simp only [Rule.nodesList, Rule.nodes, List.append_nil, List.count_append] at h ⊢
    omega

theorem count_nodes (repository : Repository) (node : Rule) :
    repository.nodes.count node = repository.total fun _ body => body.nodes.count node :=
  List.count_flatMap

theorem count_nodes_filter (repository : Repository) (node : Rule) :
    (Repository.nodes (repository.filter fun name _ => counts.get name ≠ 0)).count node =
      stock counts repository node := by
  rw [count_nodes, Table.total_filter]
  refine Table.total_congr fun name body _ => ?_
  by_cases hzero : counts.get name = 0
  · simp [hzero]
  · simp [hzero]

theorem Conserves.perm (h : Conserves counts rs s rs' s') :
    ∃ removed : List Rule,
      s'.inlined.map some = s.inlined.map some ++ removed.map Rule.reference? ∧
      (Rule.nodesList rs' ++
          Repository.nodes (s'.repository.filter fun name _ => counts.get name ≠ 0) ++
          removed).Perm
        (Rule.nodesList rs ++
          Repository.nodes (s.repository.filter fun name _ => counts.get name ≠ 0)) := by
  obtain ⟨removed, hremoved, hcount⟩ := h
  refine ⟨removed, hremoved, List.perm_iff_count.2 fun node => ?_⟩
  rw [List.count_append, List.count_append, List.count_append, count_nodes_filter,
    count_nodes_filter]
  exact hcount node

end Conserves

/-- No node is lost or doubled. -/
theorem Rewrites.conserves (h : Rewrites counts active rs s rs' s')
    (hone : ∀ n, places active s n ≤ 1) : Conserves counts rs s rs' s' := by
  induction h with
  | nil => exact .refl counts [] _
  | inside href hnode hchildren hrest ihchildren ihrest =>
    have hfirst := (ihchildren hone).inside hnode
    exact hfirst.append (ihrest (by rwa [hchildren.places_eq hone]))
  | @kept active name tag rest rest' s s₁ hcount hrest ihrest =>
    have hfirst := Conserves.refl counts [.reference (.entry name) tag] s
    exact hfirst.append (ihrest hone)
  | @pinned active name tag rest rest' s s₁ hcount ha hrest ihrest =>
    have hfirst := Conserves.refl counts [.reference (.entry name) tag] s
    exact hfirst.append (ihrest hone)
  | @restored active name tag body body' rest rest' s s₁ s₂ hcount ha hb hbody hp hrest ihbody
      ihrest =>
    obtain ⟨hafter, hnone⟩ := hbody.entered hb hone
    have hback := (places_putBack active body' hnone).trans hafter
    have hentry := (ihbody (by rwa [places_takeOut active hb])).restore (by omega) hb hnone
    have hfirst := hentry.append (.refl counts [.reference (.entry name) tag] _)
    exact hfirst.append (ihrest (by rwa [hback]))
  | @inlined active name tag body body' rest rest' s s₁ s₂ hcount ha hb hbody hp hrest ihbody
      ihrest =>
    obtain ⟨hafter, hnone⟩ := hbody.entered hb hone
    have hleft := (places_inlined active name s₁).trans hafter
    have hfirst := (ihbody (by rwa [places_takeOut active hb])).inline tag (by omega) hb
    exact hfirst.append (ihrest (by rwa [hleft]))

theorem Visits.conserves (h : Visits counts names s s') (hone : ∀ n, places [] s n ≤ 1)
    (hused : ∀ name ∈ names, 0 < counts.get name) : Conserves counts [] s [] s' := by
  induction h with
  | nil => exact .refl counts [] _
  | gone hb hrest ih => exact ih hone fun n hn => hused n (List.mem_cons_of_mem _ hn)
  | @settled name rest body body' s s₁ s₂ hb hbody hrest ih =>
    obtain ⟨hafter, hnone⟩ := hbody.entered hb hone
    have hback := (places_putBack [] body' hnone).trans hafter
    have hname : counts.get name ≠ 0 := Nat.pos_iff_ne_zero.1 (hused name List.mem_cons_self)
    have hinner := hbody.conserves (by rwa [places_takeOut [] hb])
    have hentry := hinner.restore hname hb hnone
    exact hentry.append (ih (by rwa [hback]) fun n hn => hused n (List.mem_cons_of_mem _ hn))

end Runs

section Pass

variable {patterns rules : List Rule} {repository : Repository} {s : State}

/-- Before a pass every name with an entry has its place there, and other names have none. -/
theorem places_start (repository : Repository) (name : String) :
    places [] { repository } name = if (repository.get? name).isSome then 1 else 0 := rfl

theorem places_start_le (repository : Repository) (name : String) :
    places [] { repository } name ≤ 1 := by
  rw [places_start]
  split <;> omega

theorem pass_places (h : (pass counts patterns repository).run { repository } = .ok (rules, s)) :
    places [] s = places [] { repository } :=
  pass_preserves (invariant_places counts (places_start_le repository)) h rfl

theorem pass_conserves (h : (pass counts patterns repository).run { repository } = .ok (rules, s)) :
    Conserves counts patterns { repository } rules s := by
  obtain ⟨s₁, hpatterns, hentries⟩ := pass_eq_ok h
  have hone := places_start_le repository
  have hrules := hpatterns.conserves hone
  have hrest := hentries.conserves (by rwa [hpatterns.places_eq hone]) fun name hn => by
    simpa using (List.mem_filter.1 hn).2
  simpa only [List.append_nil] using hrules.append hrest

theorem pass_perm (h : (pass counts patterns repository).run { repository } = .ok (rules, s)) :
    ∃ removed : List Rule, removed.map Rule.reference? = s.inlined.map some ∧
      (Rule.nodesList rules ++
          Repository.nodes (s.repository.filter fun name _ => counts.get name ≠ 0) ++
          removed).Perm
        (Rule.nodesList patterns ++
          Repository.nodes (repository.filter fun name _ => counts.get name ≠ 0)) := by
  obtain ⟨removed, hremoved, hperm⟩ := (pass_conserves h).perm
  exact ⟨removed, hremoved.symm, hperm⟩

/--
Compaction neither loses nor doubles rules, whatever the counts. The nodes of the patterns and
entries that it leaves are those of the patterns and of the entries in use that it was given, but
for one include of each inlined name.
-/
theorem perm_nodes_of_ofCounts (counts : UseCounts) (patterns : List Rule)
    (repository : Repository) (c : Compaction) (h : ofCounts counts patterns repository = .ok c) :
    ∃ removed : List Rule, removed.map Rule.reference? = c.inlined.map some ∧
      (Rule.nodesList c.patterns ++ c.repository.nodes ++ removed).Perm
        (Rule.nodesList patterns ++
          Repository.nodes (repository.filter fun name _ => counts.get name ≠ 0)) := by
  obtain ⟨s, hrun, hrepository, hinlined, -, -⟩ := ofCounts_eq_ok h
  rw [hrepository, hinlined]
  exact pass_perm hrun

end Pass

end Compaction

/-- Two entries that include each other, the second of them also itself. -/
def Repository.tangled : Repository := .ofList [
  ("block", Rule.alternatives ["#statement"]),
  ("statement", Rule.alternatives ["#block", "#statement"])]

/-- Fewer uses than there are includes. -/
def UseCounts.tangled : UseCounts := .ofList [("block", 1), ("statement", 1)]

/-- Both names are pinned at first; the second time round one is inlined in the other. -/
def Compaction.tangled : Compaction where
  patterns := Rule.includingAll ["#block"]
  repository := .ofList [
    ("statement", .group {
      patterns := [Rule.alternatives ["#statement"], .including "#statement"] })]
  inlined := ["block"]
  pruned := []
  findings := [⟨.singleUse, "statement"⟩]

theorem Compaction.perm_nodes_of_ofCounts_tangled :
    ofCounts .tangled (Rule.includingAll ["#block"]) .tangled = .ok .tangled ∧
    ∃ removed : List Rule,
      removed.map Rule.reference? = Compaction.tangled.inlined.map some ∧
      (Rule.nodesList Compaction.tangled.patterns ++ Compaction.tangled.repository.nodes ++
        removed).Perm (Rule.nodesList (Rule.includingAll ["#block"]) ++
          Repository.nodes (Repository.tangled.filter fun name _ =>
            UseCounts.tangled.get name ≠ 0)) :=
  have h : ofCounts .tangled (Rule.includingAll ["#block"]) .tangled = .ok .tangled := by cbv
  ⟨h, perm_nodes_of_ofCounts _ _ _ _ h⟩

end TextMate
