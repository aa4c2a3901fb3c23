import TextMate.Proofs.Unambiguous

/-!
Which fields of a document are empty. The objects of rules and of captures are found by where they
stand in the document, and they are those of the rules and captures of the grammar.
-/
namespace TextMate

open Json (Value)
open Rule.Field (ofText? ofList? ofMembers?)

namespace Json

/-- Nothing is in the value. -/
def Value.IsEmpty : Value → Prop
  | .scalar s => s = .text ""
  | .list items => items = []
  | .object members => members = []

/-- The value is an object with this member. -/
def Value.Has (v : Value) (key : String) (w : Value) : Prop :=
  ∃ members, v = .object members ∧ (key, w) ∈ members

end Json

/-- What an object of a document is written for. -/
inductive Role where
  | rule
  | capture

/-- The value stands in the document where a rule or a capture is written. -/
inductive StandsAs (document : Value) : Role → Value → Prop
  | pattern {items : List Value} {v : Value} (hitems : document.Has "patterns" (.list items))
    (hv : v ∈ items) : StandsAs document .rule v
  | entry {entries v : Value} {name : String} (hentries : document.Has "repository" entries)
    (hv : entries.Has name v) : StandsAs document .rule v
  | inner {role : Role} {outer v : Value} {items : List Value}
    (houter : StandsAs document role outer) (hitems : outer.Has "patterns" (.list items))
    (hv : v ∈ items) : StandsAs document .rule v
  | capture {outer captures v : Value} {key group : String} (houter : StandsAs document .rule outer)
    (hkey : key ∈ ["beginCaptures", "endCaptures", "captures"]) (hcaptures : outer.Has key captures)
    (hv : captures.Has group v) : StandsAs document .capture v

/-- The rules of a grammar at any depth. -/
inductive Grammar.Contains (g : Grammar) : Rule → Prop
  | pattern {r : Rule} (h : r ∈ g.patterns) : Contains g r
  | entry {e : String × Rule} (h : e ∈ g.repository.entries) : Contains g e.2
  | child {r c : Rule} (h : Contains g r) (hc : c ∈ r.children) : Contains g c

namespace Rule

/-- The patterns that are not those of a capture. -/
def ownPatterns : Rule → List Rule
  | .region r => r.patterns
  | .group r => r.patterns
  | _ => []

def capturesIn : Rule → Field → List (Capture Rule)
  | .leaf r, .captures => r.captures
  | .region r, .captures => r.captures
  | .region r, .openingCaptures => r.openingCaptures
  | .region r, .closingCaptures => r.closingCaptures
  | _, _ => []

def captureFields : List Field := [.openingCaptures, .closingCaptures, .captures]

def allCaptures (r : Rule) : List (Capture Rule) := captureFields.flatMap r.capturesIn

/-- The rule with another scope name, or without one. -/
def named (name : Option String) : Rule → Rule
  | .reference target _ => .reference target name
  | .leaf r => .leaf { r with name }
  | .region r => .region { r with name }
  | .group r => .group { r with name }

end Rule

/-- A capture as the object of its fields. -/
def Capture.tree (c : Capture Rule) : Value := Rule.Field.object fun
  | .patterns => ofList? (c.patterns.map Rule.tree)
  | .name => c.name.map fun n => .scalar (.text n)
  | _ => none

section Fields

variable {key : String} {v w : Value} {field : Rule.Field}

theorem ofText?_eq_some_iff {s : String} :
    ofText? s = some v ↔ v = .scalar (.text s) ∧ s ≠ "" := by
  by_cases hs : s = ""
  · rw [Rule.Field.ofText?_eq_none.2 hs]
    simp [hs]
  · have hvalue : ofText? s = some (.scalar (.text s)) := if_neg (by simpa using hs)
    simp [hvalue, hs, eq_comm]

theorem ofList?_eq_some_iff {vs : List Value} : ofList? vs = some v ↔ v = .list vs ∧ vs ≠ [] := by
  cases vs <;> simp [ofList?, eq_comm]

theorem ofMembers?_eq_some_iff {ms : List (String × Value)} :
    ofMembers? ms = some v ↔ v = .object ms ∧ ms ≠ [] := by
  cases ms <;> simp [ofMembers?, eq_comm]

theorem not_isEmpty_of_text {s : String} (h : ofText? s = some w) : ¬ w.IsEmpty := by
  obtain ⟨rfl, hne⟩ := ofText?_eq_some_iff.1 h
  simpa [Value.IsEmpty] using hne

theorem not_isEmpty_of_name {name : Option String} (h : name.bind ofText? = some w) :
    ¬ w.IsEmpty := by
  obtain ⟨s, -, hs⟩ := Option.bind_eq_some_iff.1 h
  exact not_isEmpty_of_text hs

theorem not_isEmpty_of_list {vs : List Value} (h : ofList? vs = some w) : ¬ w.IsEmpty := by
  obtain ⟨rfl, hne⟩ := ofList?_eq_some_iff.1 h
  exact hne

theorem not_isEmpty_of_members {ms : List (String × Value)} (h : ofMembers? ms = some w) :
    ¬ w.IsEmpty := by
  obtain ⟨rfl, hne⟩ := ofMembers?_eq_some_iff.1 h
  exact hne

theorem Rule.Field.key_injective : Function.Injective Rule.Field.key := fun a b h =>
  List.inj_on_of_nodup_map keys_nodup (mem_all a) (mem_all b) h

theorem has_object_iff {members : List (String × Value)} :
    (Value.object members).Has key w ↔ (key, w) ∈ members := by
  constructor
  · rintro ⟨_, heq, h⟩
    cases heq
    exact h
  · exact fun h => ⟨members, rfl, h⟩

/-- The members of the object of fields are the fields that have a value. -/
theorem Rule.Field.has_iff {value? : Rule.Field → Option Value} :
    (object value?).Has key w ↔ ∃ field, field.key = key ∧ value? field = some w := by
  rw [object, has_object_iff, List.mem_filterMap]
  constructor
  · rintro ⟨field, -, h⟩
    obtain ⟨v, hv, heq⟩ := Option.map_eq_some_iff.1 h
    obtain ⟨hkey, rfl⟩ := Prod.mk.inj heq
    exact ⟨field, hkey, hv⟩
  · rintro ⟨field, rfl, h⟩
    exact ⟨field, mem_all field, by rw [h]; rfl⟩

theorem Rule.Field.has_key_iff {value? : Rule.Field → Option Value} :
    (object value?).Has field.key w ↔ value? field = some w := by
  rw [has_iff]
  constructor
  · rintro ⟨other, hkey, h⟩
    rwa [← key_injective hkey]
  · exact fun h => ⟨field, rfl, h⟩

end Fields

namespace Rule

variable {r c : Rule} {field : Field} {key : String} {w : Value}

theorem exists_object (r : Rule) : ∃ value?, r.tree = Field.object value? := by
  cases r <;> exact ⟨_, by rw [tree]⟩

theorem has_tree_iff :
    r.tree.Has key w ↔ ∃ field, field.key = key ∧ Field.value? r.tree field = some w := by
  obtain ⟨value?, h⟩ := r.exists_object
  simp only [h, Field.has_iff, Field.value?_object]

theorem has_tree_key_iff : r.tree.Has field.key w ↔ Field.value? r.tree field = some w := by
  obtain ⟨value?, h⟩ := r.exists_object
  simp only [h, Field.has_key_iff, Field.value?_object]

theorem captureTrees_eq_map (captures : List (Capture Rule)) :
    captureTrees captures = captures.map Capture.tree := by
  induction captures with
  | nil => rw [captureTrees, List.map_nil]
  | cons c rest ih =>
    rw [captureTrees, ih, trees_eq_map]
    rfl

theorem value?_patterns (r : Rule) :
    Field.value? r.tree .patterns = ofList? (r.ownPatterns.map tree) := by
  cases r <;> simp only [tree, Field.value?_object, ownPatterns, trees_eq_map] <;> rfl

theorem value?_captures (r : Rule) (h : field ∈ captureFields) :
    Field.value? r.tree field =
      ofMembers? (captureMembers (r.capturesIn field) ((r.capturesIn field).map Capture.tree)) := by
  simp only [captureFields, List.mem_cons, List.not_mem_nil, or_false] at h
  rcases h with rfl | rfl | rfl <;> cases r <;>
    simp only [tree, Field.value?_object, capturesIn, captureTrees_eq_map] <;> rfl

theorem mem_captureMembers_iff {captures : List (Capture Rule)} :
    (∃ group, (group, w) ∈ captureMembers captures (captures.map Capture.tree)) ↔
      ∃ c ∈ captures, w = c.tree := by
  have hlength : (captures.map Capture.tree).length ≤
      ((Capture.groups 0 captures).map toString).length := by
    rw [List.length_map, List.length_map, Capture.length_groups]
  have hvalues := List.map_snd_zip hlength
  constructor
  · rintro ⟨group, h⟩
    obtain ⟨c, hc, rfl⟩ := List.mem_map.1 (List.of_mem_zip h).2
    exact ⟨c, hc, rfl⟩
  · rintro ⟨c, hc, rfl⟩
    have hmem : c.tree ∈ (captureMembers captures (captures.map Capture.tree)).map (·.2) := by
      rw [captureMembers, hvalues]
      exact List.mem_map_of_mem hc
    obtain ⟨⟨group, v⟩, hm, rfl⟩ := List.mem_map.1 hmem
    exact ⟨group, hm⟩

theorem mem_allCaptures_iff {capture : Capture Rule} :
    capture ∈ r.allCaptures ↔ ∃ field ∈ captureFields, capture ∈ r.capturesIn field :=
  List.mem_flatMap

/-- A child of a rule is a pattern of one of its captures or of the rule itself. -/
theorem mem_children_iff :
    c ∈ r.children ↔ (∃ capture ∈ r.allCaptures, c ∈ capture.patterns) ∨ c ∈ r.ownPatterns := by
  cases r with
  | reference target name =>
    simp [children, innerLists, ownPatterns, allCaptures, captureFields, capturesIn]
  | leaf r => simp [children, innerLists, ownPatterns, allCaptures, captureFields, capturesIn]
  | region r =>
    simp [children, innerLists, ownPatterns, allCaptures, captureFields, capturesIn,
      or_and_right, exists_or, or_assoc]
  | group r => simp [children, innerLists, ownPatterns, allCaptures, captureFields, capturesIn]

/-- A field of a rule has a value only if there is something in it. -/
theorem not_isEmpty_of_value? (h : Field.value? r.tree field = some w) : ¬ w.IsEmpty := by
  cases r with
  | reference target name =>
    simp only [tree, Field.value?_object] at h
    cases field with
    | target => exact not_isEmpty_of_text h
    | name => exact not_isEmpty_of_name h
    | _ => cases h
  | leaf r =>
    simp only [tree, Field.value?_object] at h
    cases field with
    | pattern => exact not_isEmpty_of_text h
    | captures => exact not_isEmpty_of_members h
    | name => exact not_isEmpty_of_name h
    | _ => cases h
  | region r =>
    simp only [tree, Field.value?_object] at h
    cases field with
    | opening | closing => exact not_isEmpty_of_text h
    | captures | openingCaptures | closingCaptures => exact not_isEmpty_of_members h
    | contentName | name => exact not_isEmpty_of_name h
    | patterns => exact not_isEmpty_of_list h
    | _ => cases h
  | group r =>
    simp only [tree, Field.value?_object] at h
    cases field with
    | patterns => exact not_isEmpty_of_list h
    | name => exact not_isEmpty_of_name h
    | _ => cases h

/-- An empty scope name of a rule is not written. -/
theorem toJson_named_empty (r : Rule) : (r.named (some "")).toJson = (r.named none).toJson := by
  have hname : Json.nameMember "name" (some "") = Json.nameMember "name" none := rfl
  cases r <;> simp only [named, toJson, hname]

end Rule

namespace Capture

variable {c : Capture Rule} {key : String} {w : Value}

theorem has_tree_iff :
    c.tree.Has key w ↔
      key = "patterns" ∧ w = .list (c.patterns.map Rule.tree) ∧ c.patterns ≠ [] ∨
        key = "name" ∧ ∃ name, c.name = some name ∧ w = .scalar (.text name) := by
  rw [tree, Rule.Field.has_iff]
  constructor
  · rintro ⟨field, rfl, h⟩
    cases field with
    | patterns =>
      obtain ⟨rfl, hne⟩ := ofList?_eq_some_iff.1 h
      exact .inl ⟨rfl, rfl, mt List.map_eq_nil_iff.2 hne⟩
    | name =>
      obtain ⟨name, hname, rfl⟩ := Option.map_eq_some_iff.1 h
      exact .inr ⟨rfl, name, hname, rfl⟩
    | _ => cases h
  · rintro (⟨rfl, rfl, hne⟩ | ⟨rfl, name, hname, rfl⟩)
    · exact ⟨.patterns, rfl, ofList?_eq_some_iff.2 ⟨rfl, mt List.map_eq_nil_iff.1 hne⟩⟩
    · exact ⟨.name, rfl, by simp [hname]⟩

end Capture

namespace Grammar

variable {g : Grammar} {role : Role} {r : Rule} {c : Capture Rule} {v w : Value}

/-- The captures of a grammar at any depth. -/
def HasCapture (g : Grammar) (c : Capture Rule) : Prop := ∃ r, g.Contains r ∧ c ∈ r.allCaptures

/-- The value is that of a rule or of a capture of the grammar. -/
def Writes (g : Grammar) : Role → Value → Prop
  | .rule, v => ∃ r, g.Contains r ∧ v = r.tree
  | .capture, v => ∃ c, g.HasCapture c ∧ v = c.tree

theorem has_patterns_iff : g.tree.Has "patterns" w ↔ w = .list (g.patterns.map Rule.tree) := by
  simp [tree, has_object_iff]

theorem has_repository_iff :
    g.tree.Has "repository" w ↔
      w = .object (g.repository.entries.map fun e => (e.1, e.2.tree)) := by
  simp [tree, has_object_iff]

theorem HasCapture.contains (hc : g.HasCapture c) (hr : r ∈ c.patterns) : g.Contains r := by
  obtain ⟨outer, houter, hcapture⟩ := hc
  exact houter.child (Rule.mem_children_iff.2 (.inl ⟨c, hcapture, hr⟩))

/-- What stands as a rule or as a capture is one, by induction on where it stands. -/
theorem writes_of_standsAs (h : StandsAs g.tree role v) : g.Writes role v := by
  induction h with
  | pattern hitems hv =>
    cases has_patterns_iff.1 hitems
    obtain ⟨r, hr, rfl⟩ := List.mem_map.1 hv
    exact ⟨r, .pattern hr, rfl⟩
  | entry hentries hv =>
    obtain rfl := has_repository_iff.1 hentries
    obtain ⟨e, he, heq⟩ := List.mem_map.1 (has_object_iff.1 hv)
    exact ⟨e.2, .entry he, (Prod.mk.inj heq).2.symm⟩
  | @inner role outer v items houter hitems hv ih =>
    cases role with
    | rule =>
      obtain ⟨r, hr, rfl⟩ := ih
      have hhas : r.tree.Has Rule.Field.patterns.key (.list items) := hitems
      have hfield := Rule.has_tree_key_iff.1 hhas
      rw [Rule.value?_patterns, ofList?_eq_some_iff, Value.list.injEq] at hfield
      obtain ⟨rfl, -⟩ := hfield
      obtain ⟨c, hc, rfl⟩ := List.mem_map.1 hv
      exact ⟨c, hr.child (Rule.mem_children_iff.2 (.inr hc)), rfl⟩
    | capture =>
      obtain ⟨c, hc, rfl⟩ := ih
      rcases Capture.has_tree_iff.1 hitems with ⟨-, heq, -⟩ | ⟨hkey, -⟩
      · cases heq
        obtain ⟨r, hr, rfl⟩ := List.mem_map.1 hv
        exact ⟨r, hc.contains hr, rfl⟩
      · exact absurd hkey (by decide)
  | @capture outer captures v key group houter hkey hcaptures hv ih =>
    obtain ⟨r, hr, rfl⟩ := ih
    have hkeys : key ∈ Rule.captureFields.map Rule.Field.key := hkey
    obtain ⟨field, hfield, rfl⟩ := List.mem_map.1 hkeys
    have hvalue := Rule.has_tree_key_iff.1 hcaptures
    rw [Rule.value?_captures r hfield, ofMembers?_eq_some_iff] at hvalue
    obtain ⟨rfl, -⟩ := hvalue
    obtain ⟨c, hc, rfl⟩ := Rule.mem_captureMembers_iff.1 ⟨group, has_object_iff.1 hv⟩
    exact ⟨c, ⟨r, hr, Rule.mem_allCaptures_iff.2 ⟨field, hfield, hc⟩⟩, rfl⟩

/-- The captures of a rule that stands in the document do so too. -/
theorem standsAs_capture (h : StandsAs g.tree .rule r.tree) (hc : c ∈ r.allCaptures) :
    StandsAs g.tree .capture c.tree := by
  obtain ⟨field, hfield, hmem⟩ := Rule.mem_allCaptures_iff.1 hc
  have hkey : field.key ∈ Rule.captureFields.map Rule.Field.key := List.mem_map_of_mem hfield
  obtain ⟨group, hgroup⟩ := Rule.mem_captureMembers_iff.2 ⟨c, hmem, rfl⟩
  have hvalue := (Rule.value?_captures r hfield).trans
    (ofMembers?_eq_some_iff.2 ⟨rfl, List.ne_nil_of_mem hgroup⟩)
  exact .capture h hkey (Rule.has_tree_key_iff.2 hvalue) (has_object_iff.2 hgroup)

/-- Every rule stands in the document, by induction on its depth. -/
theorem standsAs_of_contains (h : g.Contains r) : StandsAs g.tree .rule r.tree := by
  induction h with
  | pattern hr => exact .pattern (has_patterns_iff.2 rfl) (List.mem_map_of_mem hr)
  | @entry e he =>
    exact .entry (has_repository_iff.2 rfl) (has_object_iff.2 (List.mem_map.2 ⟨e, he, rfl⟩))
  | @child r child hr hchild ih =>
    rcases Rule.mem_children_iff.1 hchild with ⟨c, hc, hmem⟩ | hmem
    · have hpatterns := Capture.has_tree_iff.2 (.inl ⟨rfl, rfl, List.ne_nil_of_mem hmem⟩)
      exact .inner (standsAs_capture ih hc) hpatterns (List.mem_map_of_mem hmem)
    · have hne : r.ownPatterns.map Rule.tree ≠ [] := List.ne_nil_of_mem (List.mem_map_of_mem hmem)
      have hvalue := r.value?_patterns.trans (ofList?_eq_some_iff.2 ⟨rfl, hne⟩)
      exact .inner ih (Rule.has_tree_key_iff.2 hvalue) (List.mem_map_of_mem hmem)

theorem standsAs_iff : StandsAs g.tree role v ↔ g.Writes role v := by
  refine ⟨writes_of_standsAs, fun h => ?_⟩
  cases role with
  | rule =>
    obtain ⟨r, hr, rfl⟩ := h
    exact standsAs_of_contains hr
  | capture =>
    obtain ⟨c, ⟨r, hr, hc⟩, rfl⟩ := h
    exact standsAs_capture (standsAs_of_contains hr) hc

/--
No field of a rule is written empty, and no field of a capture but its name. This happens exactly
if a capture has a name that is empty, while the empty name of a rule counts as none.
-/
theorem document_omits (g : Grammar) :
    (∀ v, Json.IsText g.document.toList v ↔ v = g.tree) ∧
    (∀ v key w, StandsAs g.tree .rule v → v.Has key w → ¬ w.IsEmpty) ∧
    (∀ v key w, StandsAs g.tree .capture v → v.Has key w → w.IsEmpty → key = "name") ∧
    ((∃ v w, StandsAs g.tree .capture v ∧ v.Has "name" w ∧ w.IsEmpty) ↔
      ∃ c, g.HasCapture c ∧ c.name = some "") ∧
    ∀ r : Rule, (r.named (some "")).toJson = (r.named none).toJson := by
  refine ⟨fun v => g.isText_document_iff, fun v key w hv hw => ?_, fun v key w hv hw hempty => ?_,
    ?_, Rule.toJson_named_empty⟩
  · obtain ⟨r, -, rfl⟩ := writes_of_standsAs hv
    obtain ⟨field, -, hvalue⟩ := Rule.has_tree_iff.1 hw
    exact Rule.not_isEmpty_of_value? hvalue
  · obtain ⟨c, -, rfl⟩ := writes_of_standsAs hv
    rcases Capture.has_tree_iff.1 hw with ⟨-, rfl, hne⟩ | ⟨hkey, -⟩
    · exact absurd (List.map_eq_nil_iff.1 hempty) hne
    · exact hkey
  · constructor
    · rintro ⟨v, w, hv, hw, hempty⟩
      obtain ⟨c, hc, rfl⟩ := writes_of_standsAs hv
      rcases Capture.has_tree_iff.1 hw with ⟨hkey, -⟩ | ⟨-, name, hname, rfl⟩
      · exact absurd hkey (by decide)
      · cases hempty
        exact ⟨c, hc, hname⟩
    · rintro ⟨c, hc, hname⟩
      exact ⟨c.tree, .scalar (.text ""), standsAs_iff.2 ⟨c, hc, rfl⟩,
        Capture.has_tree_iff.2 (.inr ⟨rfl, "", hname, rfl⟩), rfl⟩

/-- The first group of its only rule is captured under an empty name. -/
def blankCapture : Grammar where
  name := "Blank"
  scopeName := "source.blank"
  patterns := [.leaf {
    pattern := "(x)"
    captures := [{ skip := 1, patterns := [.including "$self"], name := some "" }] }]
  repository := .empty

/-- The name of a capture is a field that is written empty. -/
theorem blankCapture_written :
    (∃ v, StandsAs blankCapture.tree .capture v ∧ v.Has "name" (.scalar (.text ""))) ∧
      ¬ ∀ (g : Grammar) (document : Value), Json.IsText g.document.toList document →
        ∀ role v key w, StandsAs document role v → v.Has key w → ¬ w.IsEmpty := by
  let c : Capture Rule := ⟨1, [.including "$self"], some ""⟩
  have hcapture : blankCapture.HasCapture c :=
    ⟨_, .pattern List.mem_cons_self, List.mem_cons_self⟩
  have hstands : StandsAs blankCapture.tree .capture c.tree := standsAs_iff.2 ⟨c, hcapture, rfl⟩
  have hname : c.tree.Has "name" (.scalar (.text "")) :=
    Capture.has_tree_iff.2 (.inr ⟨rfl, "", rfl, rfl⟩)
  have htext : Json.IsText blankCapture.document.toList blankCapture.tree :=
    blankCapture.isText_document_iff.2 rfl
  exact ⟨⟨c.tree, hstands, hname⟩, fun h =>
    h blankCapture blankCapture.tree htext .capture c.tree "name" _ hstands hname rfl⟩

end Grammar

end TextMate
