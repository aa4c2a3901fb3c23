import TextMate.Proofs.Includes

/-!
A rule is a frame with child lists in it. To replace the children of a rule is to go through its
child lists in the order in which they are read, and it leaves the frame alone.
-/
namespace TextMate

/-- The captured groups, each with the scope name that is assigned to it. -/
def Capture.labels {ρ : Type} (base : Nat) (captures : List (Capture ρ)) :
    List (Nat × Option String) :=
  (groups base captures).zip (captures.map (·.name))

/-- What a rule says besides its child lists. -/
inductive Frame where
  | reference (target : Include) (name : Option String)
  | leaf (pattern : String) (captures : List (Nat × Option String)) (name : Option String)
  | region (opening : String) (openingCaptures : List (Nat × Option String)) (closing : String)
    (closingCaptures captures : List (Nat × Option String)) (contentName name : Option String)
  | group (name : Option String)
deriving DecidableEq

namespace Rule

def frame : Rule → Frame
  | .reference target name => .reference target name
  | .leaf r => .leaf r.pattern (Capture.labels 0 r.captures) r.name
  | .region r =>
    .region r.opening (Capture.labels 0 r.openingCaptures) r.closing
      (Capture.labels 0 r.closingCaptures) (Capture.labels 0 r.captures) r.contentName r.name
  | .group r => .group r.name

/-- The rule itself with nothing said about its children but how many there are in each list. -/
def withoutChildren (r : Rule) : Rule := r.mapChildren fun _ => default

section Parts

variable {r r' : Rule}

/-- Captures are known by their labels and by the child lists that they begin. -/
theorem captures_ext {base : Nat} {captures captures' : List (Capture Rule)}
    {rest rest' : List (List Rule)}
    (hlabels : Capture.labels base captures = Capture.labels base captures')
    (h : captures.map (·.patterns) ++ rest = captures'.map (·.patterns) ++ rest') :
    captures = captures' ∧ rest = rest' := by
  induction captures generalizing base captures' with
  | nil =>
    cases captures' with
    | nil => exact ⟨rfl, h⟩
    | cons c' cs' => cases hlabels
  | cons c cs ih =>
    cases captures' with
    | nil => cases hlabels
    | cons c' cs' =>
      obtain ⟨skip, patterns, name⟩ := c
      obtain ⟨skip', patterns', name'⟩ := c'
      simp only [Capture.labels, Capture.groups, List.map_cons, List.zip_cons_cons,
        List.cons.injEq, Prod.mk.injEq, Nat.add_left_cancel_iff] at hlabels
      obtain ⟨⟨rfl, rfl⟩, hlabels⟩ := hlabels
      simp only [List.map_cons, List.cons_append, List.cons.injEq] at h
      obtain ⟨rfl, h⟩ := h
      obtain ⟨rfl, hrest⟩ := ih hlabels h
      exact ⟨rfl, hrest⟩

/-- A rule is known by its frame and its child lists. -/
theorem ext_innerLists (hframe : r.frame = r'.frame) (h : r.innerLists = r'.innerLists) :
    r = r' := by
  cases r with
  | reference target name =>
    cases r' with
    | reference target' name' =>
      obtain ⟨rfl, rfl⟩ := Frame.reference.inj hframe
      rfl
    | leaf r' => cases hframe
    | region r' => cases hframe
    | group r' => cases hframe
  | leaf r =>
    cases r' with
    | reference target' name' => cases hframe
    | leaf r' =>
      obtain ⟨pattern, captures, name⟩ := r
      obtain ⟨pattern', captures', name'⟩ := r'
      obtain ⟨rfl, hlabels, rfl⟩ := Frame.leaf.inj hframe
      obtain ⟨rfl, -⟩ := captures_ext hlabels (congrArg (· ++ []) h)
      rfl
    | region r' => cases hframe
    | group r' => cases hframe
  | region r =>
    cases r' with
    | reference target' name' => cases hframe
    | leaf r' => cases hframe
    | region r' =>
      obtain ⟨opening, openingCaptures, closing, closingCaptures, captures, contentName, patterns,
        name⟩ := r
      obtain ⟨opening', openingCaptures', closing', closingCaptures', captures', contentName',
        patterns', name'⟩ := r'
      simp only [frame, Frame.region.injEq] at hframe
      simp only [innerLists, List.append_assoc] at h
      obtain ⟨rfl, hopening, rfl, hclosing, hcaptures, rfl, rfl⟩ := hframe
      obtain ⟨rfl, hrest⟩ := captures_ext hopening h
      obtain ⟨rfl, hrest'⟩ := captures_ext hclosing hrest
      obtain ⟨rfl, hpatterns⟩ := captures_ext hcaptures hrest'
      obtain rfl := List.singleton_inj.1 hpatterns
      rfl
    | group r' => cases hframe
  | group r =>
    cases r' with
    | reference target' name' => cases hframe
    | leaf r' => cases hframe
    | region r' => cases hframe
    | group r' =>
      obtain ⟨patterns, name⟩ := r
      obtain ⟨patterns', name'⟩ := r'
      obtain rfl := Frame.group.inj hframe
      obtain rfl := List.singleton_inj.1 h
      rfl

theorem labels_inCaptures (g : Rule → Rule) (base : Nat) (captures : List (Capture Rule)) :
    Capture.labels base (inCaptures g captures) = Capture.labels base captures := by
  induction captures generalizing base with
  | nil => rfl
  | cons c rest ih => exact congrArg ((base + c.skip, c.name) :: ·) (ih (base + c.skip + 1))

theorem frame_mapChildren (g : Rule → Rule) (r : Rule) : (r.mapChildren g).frame = r.frame := by
  cases r with
  | reference target name => rfl
  | leaf r => rw [mapChildren_leaf, frame, frame, labels_inCaptures]
  | region r =>
    rw [mapChildren_region, frame, frame, labels_inCaptures, labels_inCaptures, labels_inCaptures]
  | group r => rw [mapChildren_group, frame, frame]

theorem length_innerLists_mapChildren (g : Rule → Rule) (r : Rule) :
    (r.mapChildren g).innerLists.map List.length = r.innerLists.map List.length := by
  rw [innerLists_mapChildren, List.map_map]
  exact List.map_congr_left fun rs _ => List.length_map g

/-- Without its children a rule has its frame and the lengths of its child lists. -/
theorem withoutChildren_eq_iff :
    r.withoutChildren = r'.withoutChildren ↔
      r.frame = r'.frame ∧ r.innerLists.map List.length = r'.innerLists.map List.length := by
  unfold withoutChildren
  constructor
  · intro h
    have hframe := congrArg frame h
    have hlength := congrArg (fun r => r.innerLists.map List.length) h
    rw [frame_mapChildren, frame_mapChildren] at hframe
    rw [length_innerLists_mapChildren, length_innerLists_mapChildren] at hlength
    exact ⟨hframe, hlength⟩
  · rintro ⟨hframe, hlength⟩
    have hdefault : ∀ lists : List (List Rule), lists.map (List.map fun _ => (default : Rule)) =
        (lists.map List.length).map fun n => List.replicate n default := by
      intro lists
      rw [List.map_map]
      exact List.map_congr_left fun rs _ => List.map_const'
    refine ext_innerLists ?_ ?_
    · rw [frame_mapChildren, frame_mapChildren, hframe]
    · rw [innerLists_mapChildren, innerLists_mapChildren, hdefault, hdefault, hlength]

/-- A rule is known by its node and its children. -/
theorem ext_children (hnode : r.withoutChildren = r'.withoutChildren)
    (h : r.children = r'.children) : r = r' := by
  obtain ⟨hframe, hlength⟩ := withoutChildren_eq_iff.1 hnode
  exact ext_innerLists hframe (List.eq_iff_flatten_eq.2 ⟨h, hlength⟩)

end Parts

section Lists

variable {m : Type → Type} [Monad m] [LawfulMonad m] {α β γ : Type} (f : α → m β)

theorem mapM_flatten (lists : List (List α)) :
    List.flatten <$> lists.mapM (List.mapM f) = lists.flatten.mapM f := by
  induction lists with
  | nil => simp
  | cons list rest ih =>
    rw [List.flatten_cons, List.mapM_append, List.mapM_cons, ← ih]
    simp

/-- What follows may rely on the number of elements. -/
theorem mapM_bind_congr {list : List α} {k k' : List β → m γ}
    (h : ∀ list', list'.length = list.length → k list' = k' list') :
    list.mapM f >>= k = list.mapM f >>= k' := by
  induction list generalizing k k' with
  | nil => simp [h]
  | cons a rest ih =>
    simp only [List.mapM_cons, bind_assoc, pure_bind]
    refine bind_congr fun b => ih fun list' hlength => h _ ?_
    rw [List.length_cons, List.length_cons, hlength]

end Lists

section Replacing

variable {m : Type → Type} [Monad m] [LawfulMonad m] {α : Type} (f : Rule → m Rule)

theorem patterns_inCapturesM (captures : List (Capture Rule)) :
    (fun cs : List (Capture Rule) => cs.map (·.patterns)) <$> mapChildrenM.inCaptures f captures =
      (captures.map (·.patterns)).mapM (List.mapM f) := by
  induction captures with
  | nil => simp [mapChildrenM.inCaptures]
  | cons c rest ih =>
    unfold mapChildrenM.inCaptures at ih ⊢
    rw [List.map_cons, List.mapM_cons, List.mapM_cons, ← ih]
    simp

/-- What follows may rely on all but the patterns themselves. -/
theorem inCapturesM_bind_congr {captures : List (Capture Rule)} {k k' : List (Capture Rule) → m α}
    (h : ∀ cs, inCaptures (fun _ => default) cs = inCaptures (fun _ => default) captures →
      k cs = k' cs) :
    mapChildrenM.inCaptures f captures >>= k = mapChildrenM.inCaptures f captures >>= k' := by
  induction captures generalizing k k' with
  | nil => simp [mapChildrenM.inCaptures, h]
  | cons c rest ih =>
    unfold mapChildrenM.inCaptures at ih ⊢
    simp only [List.mapM_cons, bind_assoc, pure_bind]
    refine mapM_bind_congr f fun patterns hlength => ih fun cs hcs => h _ ?_
    unfold inCaptures at hcs ⊢
    rw [List.map_cons, List.map_cons, hcs, List.map_const', List.map_const', hlength]

/-- The child lists are replaced one after the other, each from its front. -/
theorem innerLists_mapChildrenM (r : Rule) :
    innerLists <$> r.mapChildrenM f = r.innerLists.mapM (List.mapM f) := by
  cases r with
  | reference target name => simp [mapChildrenM, innerLists]
  | leaf r =>
    rw [innerLists, ← patterns_inCapturesM]
    simp [mapChildrenM, innerLists]
  | region r =>
    simp only [innerLists, List.mapM_append, ← patterns_inCapturesM, mapChildrenM,
      map_eq_pure_bind, bind_assoc, pure_bind]
    simp
  | group r => simp [mapChildrenM, innerLists]

theorem children_mapChildrenM (r : Rule) :
    children <$> r.mapChildrenM f = r.children.mapM f := by
  rw [children, ← mapM_flatten, ← innerLists_mapChildrenM, Functor.map_map]
  rfl

theorem withoutChildren_mapChildrenM (r : Rule) :
    withoutChildren <$> r.mapChildrenM f = (fun _ => r.withoutChildren) <$> r.mapChildrenM f := by
  unfold withoutChildren
  cases r with
  | reference target name => simp [mapChildrenM]
  | leaf r =>
    simp only [mapChildrenM, map_bind, map_pure, mapChildren_leaf]
    refine inCapturesM_bind_congr f fun captures hcaptures => ?_
    rw [hcaptures]
  | region r =>
    simp only [mapChildrenM, map_bind, map_pure, mapChildren_region]
    refine inCapturesM_bind_congr f fun openingCaptures hopening => ?_
    refine inCapturesM_bind_congr f fun closingCaptures hclosing => ?_
    refine inCapturesM_bind_congr f fun captures hcaptures => ?_
    refine mapM_bind_congr f fun patterns hlength => ?_
    rw [hopening, hclosing, hcaptures, List.map_const', List.map_const', hlength]
  | group r =>
    simp only [mapChildrenM, map_bind, map_pure, mapChildren_group]
    refine mapM_bind_congr f fun patterns hlength => ?_
    rw [List.map_const', List.map_const', hlength]

end Replacing

section Includes

variable {m : Type → Type} [Monad m] [LawfulMonad m] (f : Include → Option String → m Rule)

theorem mapIncludesListM_eq_mapM (rs : List Rule) :
    mapIncludesListM f rs = rs.mapM (mapIncludesM f) := by
  induction rs with
  | nil => rw [mapIncludesListM, List.mapM_nil]
  | cons r rest ih => rw [mapIncludesListM, List.mapM_cons, ih]

theorem mapIncludesCapturesM_eq_inCaptures (captures : List (Capture Rule)) :
    mapIncludesCapturesM f captures = mapChildrenM.inCaptures (mapIncludesM f) captures := by
  unfold mapChildrenM.inCaptures
  induction captures with
  | nil => rw [mapIncludesCapturesM, List.mapM_nil]
  | cons c rest ih =>
    rw [mapIncludesCapturesM, List.mapM_cons, ih, mapIncludesListM_eq_mapM]
    simp

/-- Includes at any depth are replaced by going through the children. -/
theorem mapIncludesM_eq_mapChildrenM {r : Rule} (h : ∀ target name, r ≠ .reference target name) :
    mapIncludesM f r = r.mapChildrenM (mapIncludesM f) := by
  cases r with
  | reference target name => exact absurd rfl (h target name)
  | leaf r => rw [mapIncludesM, mapChildrenM, mapIncludesCapturesM_eq_inCaptures]
  | region r =>
    simp only [mapIncludesM, mapChildrenM, mapIncludesCapturesM_eq_inCaptures,
      mapIncludesListM_eq_mapM]
  | group r => rw [mapIncludesM, mapChildrenM, mapIncludesListM_eq_mapM]

end Includes

section Rewriting

variable {σ : Type} (f : Rule → StateM σ Rule) (r : Rule) (s : σ)

theorem withoutChildren_run :
    ((r.mapChildrenM f).run s).1.withoutChildren = r.withoutChildren := by
  have h := congrArg (·.run s) (withoutChildren_mapChildrenM f r)
  rw [StateT.run_map, StateT.run_map] at h
  exact congrArg Prod.fst h

/--
To rewrite the children of a rule, with a state that passes from each child to the next, is to
rewrite them in the order in which they are read. There are as many as before in each child list,
and the frame stays as it is. By its frame and its child lists a rule is known.
-/
theorem mapChildrenM_rewrites :
    (∃ r' s', (r.mapChildrenM f).run s = (r', s') ∧
      (r.children.mapM f).run s = (r'.children, s') ∧
      (r.innerLists.mapM (List.mapM f)).run s = (r'.innerLists, s') ∧
      r'.innerLists.map List.length = r.innerLists.map List.length ∧
      r'.frame = r.frame) ∧
    (∀ g : Rule → Rule,
      (r.mapChildren g).children = r.children.map g ∧
      (r.mapChildren g).innerLists = r.innerLists.map (List.map g) ∧
      (r.mapChildren g).frame = r.frame) ∧
    ∀ r' : Rule, r = r' ↔ r.frame = r'.frame ∧ r.innerLists = r'.innerLists := by
  refine ⟨⟨_, _, rfl, ?_, ?_, ?_⟩, fun g => ?_, fun r' => ?_⟩
  · rw [← children_mapChildrenM, StateT.run_map]
    rfl
  · rw [← innerLists_mapChildrenM, StateT.run_map]
    rfl
  · obtain ⟨hframe, hlength⟩ := withoutChildren_eq_iff.1 (withoutChildren_run f r s)
    exact ⟨hlength, hframe⟩
  · exact ⟨children_mapChildren g r, innerLists_mapChildren g r, frame_mapChildren g r⟩
  · constructor
    · rintro rfl
      exact ⟨rfl, rfl⟩
    · rintro ⟨hframe, hlists⟩
      exact ext_innerLists hframe hlists

end Rewriting

end Rule

end TextMate
