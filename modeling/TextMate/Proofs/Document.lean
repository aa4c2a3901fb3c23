import TextMate.Document
import TextMate.Proofs.Json.Printing
import TextMate.Proofs.Table

/-! What the document of a grammar is read as: an object for each rule, with the fields it has. -/
namespace TextMate

/-- The fields of rules, in the order in which they are written. -/
inductive Rule.Field where
  | target
  | pattern
  | captures
  | opening
  | openingCaptures
  | closing
  | closingCaptures
  | contentName
  | patterns
  | name

namespace Rule.Field

def all : List Field :=
  [.target, .pattern, .captures, .opening, .openingCaptures, .closing, .closingCaptures,
    .contentName, .patterns, .name]

def key : Field → String
  | .target => "include"
  | .pattern => "match"
  | .captures => "captures"
  | .opening => "begin"
  | .openingCaptures => "beginCaptures"
  | .closing => "end"
  | .closingCaptures => "endCaptures"
  | .contentName => "contentName"
  | .patterns => "patterns"
  | .name => "name"

/-- An empty text is no value of a field. -/
def ofText? (s : String) : Option Json.Value := if s.isEmpty then none else some (.scalar (.text s))

def ofList? : List Json.Value → Option Json.Value
  | [] => none
  | vs => some (.list vs)

def ofMembers? : List (String × Json.Value) → Option Json.Value
  | [] => none
  | ms => some (.object ms)

/-- The fields that have a value, under their keys. -/
def object (value? : Field → Option Json.Value) : Json.Value :=
  .object (all.filterMap fun field => (value? field).map (field.key, ·))

end Rule.Field

/-- No object in the value, at any depth, has two members of one key. -/
inductive Json.Value.Distinct : Json.Value → Prop
  | scalar {s : Json.Scalar} : Distinct (.scalar s)
  | list {vs : List Json.Value} (h : ∀ v ∈ vs, Distinct v) : Distinct (.list vs)
  | object {ms : List (String × Json.Value)} (hkeys : (ms.map (·.1)).Nodup)
    (h : ∀ m ∈ ms, Distinct m.2) : Distinct (.object ms)

open Json (Value)
open Rule.Field (ofText? ofList? ofMembers?)

namespace Rule

/-- The values of captures under the numbers of their groups. -/
def captureMembers (captures : List (Capture Rule)) (values : List Value) :
    List (String × Value) :=
  ((Capture.groups 0 captures).map toString).zip values

mutual

/-- A rule as the object of its fields. -/
def tree : Rule → Value
  | .reference target name => Field.object fun
    | .target => ofText? target.text
    | .name => name.bind ofText?
    | _ => none
  | .leaf ⟨pattern, captures, name⟩ => Field.object fun
    | .pattern => ofText? pattern
    | .captures => ofMembers? (captureMembers captures (captureTrees captures))
    | .name => name.bind ofText?
    | _ => none
  | .region ⟨opening, openingCaptures, closing, closingCaptures, captures, contentName, patterns,
      name⟩ => Field.object fun
    | .captures => ofMembers? (captureMembers captures (captureTrees captures))
    | .opening => ofText? opening
    | .openingCaptures => ofMembers? (captureMembers openingCaptures (captureTrees openingCaptures))
    | .closing => ofText? closing
    | .closingCaptures => ofMembers? (captureMembers closingCaptures (captureTrees closingCaptures))
    | .contentName => contentName.bind ofText?
    | .patterns => ofList? (trees patterns)
    | .name => name.bind ofText?
    | _ => none
  | .group ⟨patterns, name⟩ => Field.object fun
    | .patterns => ofList? (trees patterns)
    | .name => name.bind ofText?
    | _ => none

def trees : List Rule → List Value
  | [] => []
  | r :: rest => r.tree :: trees rest

/-- A capture keeps its name even if that is empty. -/
def captureTrees : List (Capture Rule) → List Value
  | [] => []
  | ⟨_, patterns, name⟩ :: rest =>
    Field.object (fun
      | .patterns => ofList? (trees patterns)
      | .name => name.map fun n => .scalar (.text n)
      | _ => none) :: captureTrees rest

end

end Rule

/-- The members stand in the order of the document. -/
def Grammar.tree (g : Grammar) : Value :=
  .object [("$schema", .scalar (.text g.schema)), ("name", .scalar (.text g.name)),
    ("scopeName", .scalar (.text g.scopeName)), ("patterns", .list (g.patterns.map Rule.tree)),
    ("repository", .object (g.repository.entries.map fun e => (e.1, e.2.tree)))]

namespace Json

@[simp] theorem memberValues_append (a b : List (String × Json)) :
    memberValues (a ++ b) = memberValues a ++ memberValues b := by
  induction a with
  | nil => rfl
  | cons m rest ih =>
    obtain ⟨key, j⟩ := m
    rw [List.cons_append, memberValues, ih, memberValues]
    rfl

@[simp] theorem memberValues_textMember (key s : String) :
    memberValues (textMember key s) = ((ofText? s).map (key, ·)).toList := by
  unfold textMember ofText?
  split <;> rfl

@[simp] theorem memberValues_nameMember (key : String) (name : Option String) :
    memberValues (nameMember key name) = ((name.bind ofText?).map (key, ·)).toList := by
  cases name with
  | none => rfl
  | some s => exact memberValues_textMember key s

@[simp] theorem memberValues_listMember (key : String) (items : List Json) :
    memberValues (listMember key items) = ((ofList? (itemValues items)).map (key, ·)).toList := by
  cases items <;> rfl

@[simp] theorem memberValues_objectMember (key : String) (members : List (String × Json)) :
    memberValues (objectMember key members) =
      ((ofMembers? (memberValues members)).map (key, ·)).toList := by
  cases members with
  | nil => rfl
  | cons m rest => rfl

end Json

namespace Rule

theorem Field.object_eq (value? : Field → Option Value) :
    Field.object value? =
      .object (Field.all.flatMap fun field => ((value? field).map (field.key, ·)).toList) := by
  rw [Field.object, List.filterMap_eq_flatMap_toList]

theorem toValue_captureJson (patterns : List Json) (name : Option String) :
    (captureJson patterns name).toValue = Field.object fun
      | .patterns => ofList? (Json.itemValues patterns)
      | .name => name.map fun n => .scalar (.text n)
      | _ => none := by
  rw [captureJson, Json.toValue, Field.object_eq, Json.memberValues_append,
    Json.memberValues_listMember]
  cases name <;> simp [Field.all, Field.key, Json.memberValues, Json.toValue]

mutual

/-- The written tree of a rule has the fields of the rule. -/
theorem toValue_toJson : (r : Rule) → r.toJson.toValue = r.tree
  | .reference target name => by
    rw [toJson, tree, Json.toValue, Field.object_eq]
    simp [Field.all, Field.key]
  | .leaf ⟨pattern, captures, name⟩ => by
    rw [toJson, tree, Json.toValue, Field.object_eq]
    simp [captureMembers, memberValues_capturesJson 0 captures, Field.all, Field.key]
  | .region ⟨opening, openingCaptures, closing, closingCaptures, captures, contentName, patterns,
      name⟩ => by
    rw [toJson, tree, Json.toValue, Field.object_eq]
    simp [captureMembers, memberValues_capturesJson 0 captures,
      memberValues_capturesJson 0 openingCaptures, memberValues_capturesJson 0 closingCaptures,
      itemValues_listJson patterns, Field.all, Field.key]
  | .group ⟨patterns, name⟩ => by
    rw [toJson, tree, Json.toValue, Field.object_eq]
    simp [itemValues_listJson patterns, Field.all, Field.key]

theorem itemValues_listJson : (rs : List Rule) → Json.itemValues (listJson rs) = trees rs
  | [] => by rw [listJson, Json.itemValues, trees]
  | r :: rest => by
    rw [listJson, Json.itemValues, trees, toValue_toJson r, itemValues_listJson rest]

theorem memberValues_capturesJson (base : Nat) : (captures : List (Capture Rule)) →
    Json.memberValues (capturesJson base captures) =
      ((Capture.groups base captures).map toString).zip (captureTrees captures)
  | [] => by rw [capturesJson, Json.memberValues, captureTrees, List.zip_nil_right]
  | ⟨skip, patterns, name⟩ :: rest => by
    rw [capturesJson, Json.memberValues, captureTrees, memberValues_capturesJson _ rest,
      toValue_captureJson, itemValues_listJson patterns]
    rfl

end

theorem trees_eq_map (rs : List Rule) : trees rs = rs.map tree := by
  induction rs with
  | nil => rw [trees, List.map_nil]
  | cons r rest ih => rw [trees, ih, List.map_cons]

end Rule

section Keys

/-- The groups of captures ascend. -/
theorem Capture.groups_ascending {ρ : Type} (base : Nat) (captures : List (Capture ρ)) :
    (∀ group ∈ groups base captures, base ≤ group) ∧ (groups base captures).Pairwise (· < ·) := by
  induction captures generalizing base with
  | nil => exact ⟨nofun, .nil⟩
  | cons c rest ih =>
    obtain ⟨hle, hascending⟩ := ih (base + c.skip + 1)
    rw [groups]
    refine ⟨List.forall_mem_cons.2 ⟨Nat.le_add_right _ _, fun group hg => ?_⟩,
      List.pairwise_cons.2 ⟨fun group hg => ?_, hascending⟩⟩
    · have hnext := hle group hg
      omega
    · exact hle group hg

theorem Capture.length_groups {ρ : Type} (base : Nat) (captures : List (Capture ρ)) :
    (groups base captures).length = captures.length := by
  induction captures generalizing base with
  | nil => rfl
  | cons c rest ih => rw [groups, List.length_cons, ih, List.length_cons]

namespace Rule

theorem length_captureTrees (captures : List (Capture Rule)) :
    (captureTrees captures).length = captures.length := by
  induction captures with
  | nil => rw [captureTrees]; rfl
  | cons c rest ih => rw [captureTrees, List.length_cons, ih, List.length_cons]

theorem captureMembers_nodup (captures : List (Capture Rule)) :
    ((captureMembers captures (captureTrees captures)).map (·.1)).Nodup := by
  rw [captureMembers, List.map_fst_zip
    (by rw [List.length_map, Capture.length_groups, length_captureTrees])]
  have hgroups := (Capture.groups_ascending 0 captures).2.imp fun {_ _} hlt => Nat.ne_of_lt hlt
  exact hgroups.map _ fun a b hne heq => hne (Nat.repr_injective heq)

/-- The keys of the fields that have a value stand in the order of all keys. -/
theorem Field.keys_sublist (value? : Field → Option Value) (fields : List Field) :
    ((fields.filterMap fun field => (value? field).map (field.key, ·)).map (·.1)).Sublist
      (fields.map key) := by
  induction fields with
  | nil => exact .slnil
  | cons field rest ih =>
    rw [List.map_cons]
    cases h : value? field with
    | none => simpa [h] using ih.cons field.key
    | some v => simpa [h] using ih.cons_cons field.key

theorem Field.keys_nodup : (all.map key).Nodup := by decide

end Rule

end Keys

section Distinct

variable {v : Value}

theorem distinct_ofText? {s : String} (h : ofText? s = some v) : v.Distinct := by
  unfold ofText? at h
  split at h
  · cases h
  · cases h
    exact .scalar

theorem distinct_ofList? {vs : List Value} (hvs : ∀ v ∈ vs, v.Distinct)
    (h : ofList? vs = some v) : v.Distinct := by
  cases vs with
  | nil => cases h
  | cons first rest =>
    cases h
    exact .list hvs

theorem distinct_ofMembers? {ms : List (String × Value)} (hkeys : (ms.map (·.1)).Nodup)
    (hms : ∀ m ∈ ms, m.2.Distinct) (h : ofMembers? ms = some v) : v.Distinct := by
  cases ms with
  | nil => cases h
  | cons first rest =>
    cases h
    exact .object hkeys hms

theorem Rule.Field.distinct_object {value? : Field → Option Value}
    (h : ∀ field v, value? field = some v → v.Distinct) : (object value?).Distinct := by
  refine .object ((keys_sublist value? all).nodup keys_nodup) fun m hm => ?_
  obtain ⟨field, -, hfield⟩ := List.mem_filterMap.1 hm
  obtain ⟨v, hv, rfl⟩ := Option.map_eq_some_iff.1 hfield
  exact h field v hv

namespace Rule

theorem distinct_name {name : Option String} (h : name.bind ofText? = some v) : v.Distinct := by
  obtain ⟨s, -, hs⟩ := Option.bind_eq_some_iff.1 h
  exact distinct_ofText? hs

theorem distinct_captures {captures : List (Capture Rule)}
    (hvalues : ∀ v ∈ captureTrees captures, v.Distinct)
    (h : ofMembers? (captureMembers captures (captureTrees captures)) = some v) : v.Distinct :=
  distinct_ofMembers? (captureMembers_nodup captures)
    (fun m hm => hvalues m.2 (List.of_mem_zip hm).2) h

mutual

theorem distinct_tree : (r : Rule) → r.tree.Distinct
  | .reference target name => by
    rw [tree]
    refine Field.distinct_object fun field v h => ?_
    cases field with
    | target => exact distinct_ofText? h
    | name => exact distinct_name h
    | _ => cases h
  | .leaf ⟨pattern, captures, name⟩ => by
    rw [tree]
    refine Field.distinct_object fun field v h => ?_
    cases field with
    | pattern => exact distinct_ofText? h
    | captures => exact distinct_captures (distinct_captureTrees captures) h
    | name => exact distinct_name h
    | _ => cases h
  | .region ⟨opening, openingCaptures, closing, closingCaptures, captures, contentName, patterns,
      name⟩ => by
    rw [tree]
    refine Field.distinct_object fun field v h => ?_
    cases field with
    | captures => exact distinct_captures (distinct_captureTrees captures) h
    | opening => exact distinct_ofText? h
    | openingCaptures => exact distinct_captures (distinct_captureTrees openingCaptures) h
    | closing => exact distinct_ofText? h
    | closingCaptures => exact distinct_captures (distinct_captureTrees closingCaptures) h
    | contentName => exact distinct_name h
    | patterns => exact distinct_ofList? (distinct_trees patterns) h
    | name => exact distinct_name h
    | _ => cases h
  | .group ⟨patterns, name⟩ => by
    rw [tree]
    refine Field.distinct_object fun field v h => ?_
    cases field with
    | patterns => exact distinct_ofList? (distinct_trees patterns) h
    | name => exact distinct_name h
    | _ => cases h

theorem distinct_trees : (rs : List Rule) → ∀ v ∈ trees rs, v.Distinct
  | [] => by
    rw [trees]
    exact nofun
  | r :: rest => by
    rw [trees]
    exact List.forall_mem_cons.2 ⟨distinct_tree r, distinct_trees rest⟩

theorem distinct_captureTrees : (captures : List (Capture Rule)) →
    ∀ v ∈ captureTrees captures, v.Distinct
  | [] => by
    rw [captureTrees]
    exact nofun
  | ⟨skip, patterns, name⟩ :: rest => by
    rw [captureTrees]
    refine List.forall_mem_cons.2 ⟨?_, distinct_captureTrees rest⟩
    refine Field.distinct_object fun field v h => ?_
    cases field with
    | patterns => exact distinct_ofList? (distinct_trees patterns) h
    | name =>
      obtain ⟨n, -, rfl⟩ := Option.map_eq_some_iff.1 h
      exact .scalar
    | _ => cases h

end

theorem exists_tree (r : Rule) : ∃ members, r.tree = .object members ∧
    (members.map (·.1)).Sublist (Field.all.map Field.key) := by
  rcases r with ⟨target, name⟩ | ⟨rule⟩ | ⟨rule⟩ | ⟨rule⟩ <;>
    exact ⟨_, by rw [tree]; rfl, Field.keys_sublist _ _⟩

end Rule

end Distinct

namespace Grammar

theorem memberValues_entries (entries : List (String × Rule)) :
    Json.memberValues (entries.map fun e => (e.1, e.2.toJson)) =
      entries.map fun e => (e.1, e.2.tree) := by
  induction entries with
  | nil => rw [List.map_nil, List.map_nil, Json.memberValues]
  | cons e rest ih =>
    rw [List.map_cons, List.map_cons, Json.memberValues, ih, Rule.toValue_toJson]

theorem toValue_toJson (g : Grammar) : g.toJson.toValue = g.tree := by
  have hpatterns := (Rule.itemValues_listJson g.patterns).trans (Rule.trees_eq_map g.patterns)
  have hentries := memberValues_entries g.repository.entries
  simp only [toJson, Json.toValue, Json.memberValues, hpatterns, hentries, tree]

theorem parse?_document (g : Grammar) : Json.parse? g.document.toList = some g.tree := by
  have hdocument : g.document.toList = g.toJson.indented 0 ++ ['\n'] := by
    rw [document, documentBody, String.toList_append, String.toList_ofList]
    rfl
  rw [hdocument, Json.parse?_indented, toValue_toJson]

theorem isText_document_iff (g : Grammar) {v : Value} :
    Json.IsText g.document.toList v ↔ v = g.tree := by
  rw [← Json.parse?_eq_some_iff, parse?_document, Option.some.injEq, eq_comm]

theorem distinct_tree (g : Grammar) : g.tree.Distinct := by
  have hentries : (Value.object (g.repository.entries.map fun e => (e.1, e.2.tree))).Distinct := by
    refine .object ?_ fun m hm => ?_
    · rw [List.map_map]
      exact g.repository.keys_nodup
    · obtain ⟨e, -, rfl⟩ := List.mem_map.1 hm
      exact e.2.distinct_tree
  have hpatterns : (Value.list (g.patterns.map Rule.tree)).Distinct := by
    refine .list fun v hv => ?_
    obtain ⟨r, -, rfl⟩ := List.mem_map.1 hv
    exact r.distinct_tree
  have hkeys : ["$schema", "name", "scopeName", "patterns", "repository"].Nodup := by decide
  refine .object hkeys ?_
  simp only [List.forall_mem_cons]
  exact ⟨.scalar, .scalar, .scalar, hpatterns, hentries, nofun⟩

/--
The document of a grammar, to its last character, is a text of one value and is read as that: the
tree with the members of the grammar in their order, the entries in name order and, in the order of
keys, the fields of every rule that are not empty. No key occurs twice in an object, and a rule on
its own is read as the same tree as in the document.
-/
theorem parse_document (g : Grammar) :
    Json.parse? g.document.toList = some g.tree ∧
    (∀ v, Json.IsText g.document.toList v ↔ v = g.tree) ∧
    g.repository.keys.Pairwise (· < ·) ∧
    g.tree.Distinct ∧
    ∀ r : Rule, (∃ members, r.tree = .object members ∧
        (members.map (·.1)).Sublist (Rule.Field.all.map Rule.Field.key)) ∧
      Json.parse? r.toJson.compact = some r.tree := by
  have hread : ∀ r : Rule, Json.parse? r.toJson.compact = some r.tree := by
    intro r
    rw [Json.parse?_compact, Rule.toValue_toJson]
  exact ⟨g.parse?_document, fun _ => g.isText_document_iff, g.repository.keys_ascending,
    g.distinct_tree, fun r => ⟨r.exists_tree, hread r⟩⟩

end Grammar

end TextMate
