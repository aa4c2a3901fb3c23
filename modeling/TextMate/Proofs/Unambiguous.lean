import TextMate.Proofs.Conservation
import TextMate.Proofs.Counting
import TextMate.Proofs.Document

/-! Grammars that can be told from their documents, although empty fields are not written. -/
namespace TextMate

open Json (Value)
open Rule.Field (ofText? ofList? ofMembers?)

section Conditions

/-- The text is not empty, and it is not that of an include of an entry. -/
def Include.Legible : Include → Prop
  | .entry _ => True
  | .external text => text ≠ "" ∧ text.toList.head? ≠ some '#'

instance : DecidablePred Include.Legible
  | .entry _ => inferInstanceAs (Decidable True)
  | .external text => inferInstanceAs (Decidable (text ≠ "" ∧ text.toList.head? ≠ some '#'))

/-- No name of the rule is empty, nor is the text that tells what kind of rule it is. -/
def Rule.Legible (r : Rule) : Prop :=
  r.name ≠ some "" ∧
  match r with
  | .reference target _ => target.Legible
  | .leaf r => r.pattern ≠ ""
  | .region r => r.opening ≠ "" ∧ r.contentName ≠ some ""
  | .group _ => True

instance : DecidablePred Rule.Legible
  | .reference target name => inferInstanceAs (Decidable (name ≠ some "" ∧ target.Legible))
  | .leaf r => inferInstanceAs (Decidable (r.name ≠ some "" ∧ r.pattern ≠ ""))
  | .region r =>
    inferInstanceAs (Decidable (r.name ≠ some "" ∧ r.opening ≠ "" ∧ r.contentName ≠ some ""))
  | .group r => inferInstanceAs (Decidable (r.name ≠ some "" ∧ True))

/-- All rules are legible, in the patterns and in the entries and at any depth. -/
def Grammar.Legible (g : Grammar) : Prop :=
  ∀ node ∈ Rule.nodesList g.patterns ++ g.repository.nodes, node.Legible

instance : DecidablePred Grammar.Legible := fun g =>
  inferInstanceAs (Decidable (∀ node ∈ Rule.nodesList g.patterns ++ g.repository.nodes,
    node.Legible))

end Conditions

theorem Include.text_inj {target target' : Include} (h : target.Legible) (h' : target'.Legible)
    (heq : target.text = target'.text) : target = target' := by
  have hhash : ∀ name text : String, "#" ++ name = text → text.toList.head? = some '#' := by
    rintro name text rfl
    rw [String.toList_append]
    rfl
  cases target with
  | entry name =>
    cases target' with
    | entry name' => rw [(String.append_right_inj "#").1 heq]
    | external text => exact absurd (hhash name text heq) h'.2
  | external text =>
    cases target' with
    | entry name => exact absurd (hhash name text heq.symm) h.2
    | external text' => rw [show text = text' from heq]

theorem Include.text_ne_empty {target : Include} (h : target.Legible) : target.text ≠ "" := by
  cases target with
  | entry name =>
    intro heq
    have hlist := congrArg String.toList heq
    rw [text, String.toList_append] at hlist
    cases hlist
  | external text => exact h.1

/-- Lists are known by their images if that holds of what is in them. -/
theorem eq_of_map_eq {α β : Type} {f : α → β} {l l' : List α}
    (hf : ∀ a ∈ l, ∀ b ∈ l', f a = f b → a = b) (h : l.map f = l'.map f) : l = l' := by
  induction l generalizing l' with
  | nil => exact (List.map_eq_nil_iff.1 h.symm).symm
  | cons a rest ih =>
    cases l' with
    | nil => cases h
    | cons b rest' =>
      rw [List.map_cons, List.map_cons, List.cons.injEq] at h
      have hhead : a = b := hf a List.mem_cons_self b List.mem_cons_self h.1
      have htail : rest = rest' := ih
        (fun x hx y hy => hf x (List.mem_cons_of_mem _ hx) y (List.mem_cons_of_mem _ hy)) h.2
      rw [hhead, htail]

namespace Rule

namespace Field

/-- The value of a field of an object. -/
def value? : Value → Field → Option Value
  | .object members, field => members.lookup field.key
  | _, _ => none

variable {f : Field → Option Value} {field : Field}

theorem lookup_key {fields : List Field} (hnodup : (fields.map key).Nodup)
    (hmem : field ∈ fields) :
    (fields.filterMap fun field => (f field).map (field.key, ·)).lookup field.key = f field := by
  induction fields with
  | nil => cases hmem
  | cons first rest ih =>
    obtain ⟨hfirst, hrest⟩ := List.nodup_cons.1 hnodup
    rcases List.mem_cons.1 hmem with rfl | hmem
    · cases hvalue : f field with
      | none =>
        rw [List.filterMap_cons_none (by rw [hvalue]; rfl)]
        refine List.lookup_eq_none_iff.2 fun m hm => ?_
        have hkey := (keys_sublist f rest).subset (List.mem_map_of_mem hm)
        have hne : field.key ≠ m.1 := fun heq => hfirst (heq ▸ hkey)
        simpa using hne
      | some v =>
        rw [List.filterMap_cons_some (by rw [hvalue]; rfl)]
        exact List.lookup_cons_self
    · have hne : field.key ≠ first.key := fun heq => hfirst (heq ▸ List.mem_map_of_mem hmem)
      cases hvalue : f first with
      | none =>
        rw [List.filterMap_cons_none (by rw [hvalue]; rfl)]
        exact ih hrest hmem
      | some v =>
        rw [List.filterMap_cons_some (by rw [hvalue]; rfl), Table.lookup_cons_eq_ite, if_neg hne]
        exact ih hrest hmem

theorem mem_all (field : Field) : field ∈ all := by
  cases field <;> simp [all]

@[simp] theorem value?_object (f : Field → Option Value) (field : Field) :
    value? (object f) field = f field :=
  lookup_key keys_nodup (mem_all field)

@[simp] theorem ofText?_inj {s t : String} : ofText? s = ofText? t ↔ s = t := by
  refine ⟨fun h => ?_, congrArg ofText?⟩
  unfold ofText? at h
  split_ifs at h with hs ht ht
  · rw [String.isEmpty_iff.1 hs, String.isEmpty_iff.1 ht]
  · simpa using h

theorem ofText?_eq_none {s : String} : ofText? s = none ↔ s = "" := by
  unfold ofText?
  split_ifs with hs
  · simpa using hs
  · simpa using hs

@[simp] theorem ofList?_inj {vs ws : List Value} : ofList? vs = ofList? ws ↔ vs = ws := by
  cases vs <;> cases ws <;> simp [ofList?]

@[simp] theorem ofMembers?_inj {ms ns : List (String × Value)} :
    ofMembers? ms = ofMembers? ns ↔ ms = ns := by
  cases ms <;> cases ns <;> simp [ofMembers?]

theorem bind_ofText?_inj {name name' : Option String} (h : name ≠ some "") (h' : name' ≠ some "")
    (heq : name.bind ofText? = name'.bind ofText?) : name = name' := by
  have hnone : ∀ s : String, some s ≠ some "" → ofText? s ≠ none := fun s hs hnone =>
    hs (congrArg some (ofText?_eq_none.1 hnone))
  cases name with
  | none =>
    cases name' with
    | none => rfl
    | some s => exact absurd heq.symm (hnone s h')
  | some s =>
    cases name' with
    | none => exact absurd heq (hnone s h)
    | some t => rw [ofText?_inj.1 heq]

end Field

/-- The field that all rules of a kind have and no others; groups have none. -/
def marker : Rule → Option Field
  | .reference .. => some .target
  | .leaf _ => some .pattern
  | .region _ => some .opening
  | .group _ => none

theorem find?_marker {r : Rule} (h : r.Legible) :
    ([.target, .pattern, .opening] : List Field).find?
      (fun field => (Field.value? r.tree field).isSome) = r.marker := by
  have hsome : ∀ s : String, s ≠ "" → (ofText? s).isSome = true := fun s hs =>
    Option.isSome_iff_ne_none.2 (mt Field.ofText?_eq_none.1 hs)
  obtain ⟨-, hkind⟩ := h
  cases r with
  | reference target name => simp [tree, marker, hsome _ (Include.text_ne_empty hkind)]
  | leaf r => simp [tree, marker, hsome _ hkind]
  | region r => simp [tree, marker, hsome _ hkind.1]
  | group r => simp [tree, marker]

theorem map_default_of_map_tree {rs rs' : List Rule} (h : rs.map tree = rs'.map tree) :
    (rs.map fun _ => (default : Rule)) = rs'.map fun _ => default := by
  have hlength := congrArg List.length h
  simpa [List.map_const'] using hlength

/-- The members of captures tell the groups and the names, and the patterns in a row. -/
theorem captures_of_zip {base : Nat} {captures captures' : List (Capture Rule)}
    (h : ((Capture.groups base captures).map toString).zip (captureTrees captures) =
      ((Capture.groups base captures').map toString).zip (captureTrees captures')) :
    inCaptures (fun _ => default) captures = inCaptures (fun _ => default) captures' ∧
    (captures.map (·.patterns)).flatten.map tree =
      (captures'.map (·.patterns)).flatten.map tree := by
  induction captures generalizing base captures' with
  | nil =>
    cases captures' with
    | nil => exact ⟨rfl, rfl⟩
    | cons c' rest' => cases h
  | cons c rest ih =>
    cases captures' with
    | nil => cases h
    | cons c' rest' =>
      obtain ⟨skip, patterns, name⟩ := c
      obtain ⟨skip', patterns', name'⟩ := c'
      simp only [Capture.groups, captureTrees, List.map_cons, List.zip_cons_cons, List.cons.injEq,
        Prod.mk.injEq] at h
      obtain ⟨⟨hgroup, hcapture⟩, hrest⟩ := h
      have hskip : base + skip = base + skip' := Nat.repr_injective hgroup
      obtain rfl : skip = skip' := by omega
      obtain ⟨hnodes, hpatterns⟩ := ih hrest
      have hvalue := fun field => congrArg (Field.value? · field) hcapture
      have hlist := hvalue .patterns
      have hname := hvalue .name
      simp only [Field.value?_object, Field.ofList?_inj, trees_eq_map] at hlist
      simp only [Field.value?_object] at hname
      have hmap := map_default_of_map_tree hlist
      obtain rfl : name = name' := Option.map_injective (fun s t hst => by simpa using hst) hname
      constructor
      · unfold inCaptures at hnodes ⊢
        rw [List.map_cons, List.map_cons, hnodes, hmap]
      · simp only [List.map_cons, List.flatten_cons, List.map_append, hlist, hpatterns]

theorem legible_withoutChildren {r : Rule} : r.withoutChildren.Legible ↔ r.Legible := by
  unfold withoutChildren
  cases r with
  | reference => rfl
  | leaf r => rw [mapChildren_leaf]; rfl
  | region r => rw [mapChildren_region]; rfl
  | group r => rw [mapChildren_group]; rfl

/-- The rules have the same node, and their children the same trees. -/
structure Matches (r r' : Rule) : Prop where
  node : r.withoutChildren = r'.withoutChildren
  children : r.children.map tree = r'.children.map tree

section Kinds

variable {target target' : Include} {tag tag' : Option String}

theorem reference_matches (htarget : target.Legible) (htarget' : target'.Legible)
    (htag : tag ≠ some "") (htag' : tag' ≠ some "")
    (heq : (reference target tag).tree = (reference target' tag').tree) :
    (reference target tag).Matches (reference target' tag') := by
  have hvalue := fun field => congrArg (Field.value? · field) heq
  have htext := hvalue .target
  have hname := hvalue .name
  simp only [tree, Field.value?_object, Field.ofText?_inj] at htext hname
  obtain rfl : target = target' := Include.text_inj htarget htarget' htext
  obtain rfl : tag = tag' := Field.bind_ofText?_inj htag htag' hname
  exact ⟨rfl, rfl⟩

theorem leaf_matches {r r' : Leaf Rule} (hr : r.name ≠ some "") (hr' : r'.name ≠ some "")
    (heq : (leaf r).tree = (leaf r').tree) : (leaf r).Matches (leaf r') := by
  obtain ⟨pattern, captures, name⟩ := r
  obtain ⟨pattern', captures', name'⟩ := r'
  have hvalue := fun field => congrArg (Field.value? · field) heq
  have hpattern := hvalue .pattern
  have hcaptures := hvalue .captures
  have hname := hvalue .name
  simp only [tree, Field.value?_object, Field.ofText?_inj, Field.ofMembers?_inj]
    at hpattern hcaptures hname
  obtain ⟨hnodes, hpatterns⟩ := captures_of_zip hcaptures
  have hsame : name = name' := Field.bind_ofText?_inj hr hr' hname
  constructor
  · rw [withoutChildren, withoutChildren, mapChildren_leaf, mapChildren_leaf, hnodes, hpattern,
      hsame]
  · exact hpatterns

theorem region_matches {r r' : Region Rule} (hr : r.name ≠ some "") (hr' : r'.name ≠ some "")
    (hcontent : r.contentName ≠ some "") (hcontent' : r'.contentName ≠ some "")
    (heq : (region r).tree = (region r').tree) : (region r).Matches (region r') := by
  obtain ⟨opening, openingCaptures, closing, closingCaptures, captures, contentName, patterns,
    name⟩ := r
  obtain ⟨opening', openingCaptures', closing', closingCaptures', captures', contentName',
    patterns', name'⟩ := r'
  have hvalue := fun field => congrArg (Field.value? · field) heq
  have hopening := hvalue .opening
  have hclosing := hvalue .closing
  have hopeningCaptures := hvalue .openingCaptures
  have hclosingCaptures := hvalue .closingCaptures
  have hcaptures := hvalue .captures
  have hcontentName := hvalue .contentName
  have hlist := hvalue .patterns
  have hname := hvalue .name
  simp only [tree, Field.value?_object, Field.ofText?_inj, Field.ofMembers?_inj, Field.ofList?_inj,
    trees_eq_map]
    at hopening hclosing hopeningCaptures hclosingCaptures hcaptures hcontentName hlist hname
  obtain ⟨hopeningNodes, hopeningPatterns⟩ := captures_of_zip hopeningCaptures
  obtain ⟨hclosingNodes, hclosingPatterns⟩ := captures_of_zip hclosingCaptures
  obtain ⟨hnodes, hpatterns⟩ := captures_of_zip hcaptures
  have hsame : name = name' := Field.bind_ofText?_inj hr hr' hname
  have hsameContent : contentName = contentName' :=
    Field.bind_ofText?_inj hcontent hcontent' hcontentName
  constructor
  · rw [withoutChildren, withoutChildren, mapChildren_region, mapChildren_region, hopeningNodes,
      hclosingNodes, hnodes, map_default_of_map_tree hlist, hopening, hclosing, hsame, hsameContent]
  · simp only [Rule.children, innerLists, List.flatten_append, List.map_append, hopeningPatterns,
      hclosingPatterns, hpatterns, List.flatten_cons, List.flatten_nil, hlist]

theorem group_matches {r r' : Group Rule} (hr : r.name ≠ some "") (hr' : r'.name ≠ some "")
    (heq : (group r).tree = (group r').tree) : (group r).Matches (group r') := by
  obtain ⟨patterns, name⟩ := r
  obtain ⟨patterns', name'⟩ := r'
  have hvalue := fun field => congrArg (Field.value? · field) heq
  have hlist := hvalue .patterns
  have hname := hvalue .name
  simp only [tree, Field.value?_object, Field.ofList?_inj, trees_eq_map] at hlist hname
  have hsame : name = name' := Field.bind_ofText?_inj hr hr' hname
  constructor
  · rw [withoutChildren, withoutChildren, mapChildren_group, mapChildren_group,
      map_default_of_map_tree hlist, hsame]
  · simp only [Rule.children, innerLists, List.flatten_cons, List.flatten_nil, List.map_append,
      hlist]

end Kinds

/-- The tree of a rule tells its node and the trees of its children. -/
theorem matches_of_tree {r r' : Rule} (h : r.Legible) (h' : r'.Legible)
    (heq : r.tree = r'.tree) : r.Matches r' := by
  have hmarker : r.marker = r'.marker := by rw [← find?_marker h, heq, find?_marker h']
  obtain ⟨hname, hkind⟩ := h
  obtain ⟨hname', hkind'⟩ := h'
  cases r with
  | reference target tag =>
    cases r' with
    | reference target' tag' => exact reference_matches hkind hkind' hname hname' heq
    | _ => cases hmarker
  | leaf r =>
    cases r' with
    | leaf r' => exact leaf_matches hname hname' heq
    | _ => cases hmarker
  | region r =>
    cases r' with
    | region r' => exact region_matches hname hname' hkind.2 hkind'.2 heq
    | _ => cases hmarker
  | group r =>
    cases r' with
    | group r' => exact group_matches hname hname' heq
    | _ => cases hmarker

/-- A rule is known by its tree if it is legible at any depth. -/
theorem eq_of_tree {r r' : Rule} (h : ∀ node ∈ r.nodes, node.Legible)
    (h' : ∀ node ∈ r'.nodes, node.Legible) (heq : r.tree = r'.tree) : r = r' := by
  induction r using induction_children generalizing r' with
  | step r ih =>
    rw [nodes_eq, List.forall_mem_cons, legible_withoutChildren] at h h'
    have hmatches := matches_of_tree h.1 h'.1 heq
    refine ext_children hmatches.node (eq_of_map_eq (fun c hc c' hc' htree => ?_) hmatches.children)
    have hnodes : ∀ {c : Rule} {rs : List Rule}, c ∈ rs → c.nodes ⊆ nodesList rs :=
      fun hc node hn => nodesList_eq_flatMap _ ▸ List.mem_flatMap.2 ⟨_, hc, hn⟩
    exact ih c hc (fun node hn => h.2 node (hnodes hc hn)) (fun node hn => h'.2 node (hnodes hc' hn))
      htree

end Rule

namespace Grammar

theorem tree_of_document {g h : Grammar} (heq : g.document = h.document) : g.tree = h.tree := by
  have hread := h.parse?_document
  rw [← heq, g.parse?_document] at hread
  exact Option.some.inj hread

section Legible

variable {g : Grammar} (hg : g.Legible)
include hg

theorem Legible.pattern {r : Rule} (hr : r ∈ g.patterns) : ∀ node ∈ r.nodes, node.Legible := by
  intro node hn
  refine hg node (List.mem_append_left _ ?_)
  rw [Rule.nodesList_eq_flatMap]
  exact List.mem_flatMap.2 ⟨r, hr, hn⟩

theorem Legible.entry {e : String × Rule} (he : e ∈ g.repository.entries) :
    ∀ node ∈ e.2.nodes, node.Legible :=
  fun node hn => hg node (List.mem_append_right _ (List.mem_flatMap.2 ⟨e, he, hn⟩))

end Legible

/--
A document tells its grammar: the kinds and the order of the rules, all captures with their names,
the entries and the header. Nothing that is left out is missed if no rule has an empty name or lacks
the text of its kind, and if an include that is written like one of an entry is one.
-/
theorem document_inj (g h : Grammar) (hg : g.Legible) (hh : h.Legible)
    (heq : g.document = h.document) : g = h := by
  have htree := tree_of_document heq
  simp only [tree, Value.object.injEq, List.cons.injEq, Prod.mk.injEq, Value.scalar.injEq,
    Json.Scalar.text.injEq, Value.list.injEq, true_and, and_true] at htree
  obtain ⟨hschema, hname, hscopeName, hpatterns, hentries⟩ := htree
  have hlists : g.patterns = h.patterns :=
    eq_of_map_eq (fun r hr r' hr' => Rule.eq_of_tree (hg.pattern hr) (hh.pattern hr')) hpatterns
  have hrepositories : g.repository = h.repository := by
    refine Table.ext (eq_of_map_eq (fun e he e' he' hentry => ?_) hentries)
    obtain ⟨hkey, hbody⟩ := Prod.mk.inj hentry
    exact Prod.ext hkey (Rule.eq_of_tree (hg.entry he) (hh.entry he') hbody)
  obtain ⟨schema, name, scopeName, patterns, repository⟩ := g
  rw [mk.injEq]
  exact ⟨hschema, hname, hscopeName, hlists, hrepositories⟩

/-- Without its pattern a rule is written like a group. -/
example : (Rule.leaf { pattern := "" }).toJson = (Rule.group {}).toJson := by cbv

/-- The entries are given in another order. -/
def circularReversed : Grammar :=
  { circular with repository := .ofList circular.repository.entries.reverse }

theorem document_inj_circular :
    (circular.Legible ∧ circularReversed.Legible ∧
      circular.document = circularReversed.document) ∧ circular = circularReversed := by
  have hg : circular.Legible := by decide +kernel
  have hh : circularReversed.Legible := by decide +kernel
  have hjson : circular.toJson = circularReversed.toJson := by cbv
  have heq : circular.document = circularReversed.document := by
    rw [document, document, documentBody, documentBody, hjson]
  exact ⟨⟨hg, hh, heq⟩, document_inj circular circularReversed hg hh heq⟩

end Grammar

end TextMate
