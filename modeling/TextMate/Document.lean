import TextMate.Grammar
import TextMate.Json

/-! The JSON document of a grammar. -/
namespace TextMate

/-- An empty text is not written. -/
def Json.textMember (key value : String) : List (String × Json) :=
  if value.isEmpty then [] else [(key, .text value)]

def Json.nameMember (key : String) : Option String → List (String × Json)
  | some value => Json.textMember key value
  | none => []

/-- An empty list is not written. -/
def Json.listMember (key : String) : List Json → List (String × Json)
  | [] => []
  | items => [(key, .list items)]

def Json.objectMember (key : String) : List (String × Json) → List (String × Json)
  | [] => []
  | members => [(key, .object members)]

namespace Rule

/-- The name of a capture is written even if it is empty. -/
def captureJson (patterns : List Json) (name : Option String) : Json :=
  .object (Json.listMember "patterns" patterns ++ (name.map fun n => ("name", .text n)).toList)

mutual

def toJson : Rule → Json
  | .reference target name =>
    .object (Json.textMember "include" target.text ++ Json.nameMember "name" name)
  | .leaf ⟨pattern, captures, name⟩ =>
    .object (Json.textMember "match" pattern ++
      Json.objectMember "captures" (capturesJson 0 captures) ++ Json.nameMember "name" name)
  | .region ⟨opening, openingCaptures, closing, closingCaptures, captures, contentName, patterns,
      name⟩ =>
    .object (Json.objectMember "captures" (capturesJson 0 captures) ++
      Json.textMember "begin" opening ++
      Json.objectMember "beginCaptures" (capturesJson 0 openingCaptures) ++
      Json.textMember "end" closing ++
      Json.objectMember "endCaptures" (capturesJson 0 closingCaptures) ++
      Json.nameMember "contentName" contentName ++
      Json.listMember "patterns" (listJson patterns) ++ Json.nameMember "name" name)
  | .group ⟨patterns, name⟩ =>
    .object (Json.listMember "patterns" (listJson patterns) ++ Json.nameMember "name" name)

def listJson : List Rule → List Json
  | [] => []
  | r :: rest => r.toJson :: listJson rest

/-- One member for each group, from the group `base` on. -/
def capturesJson (base : Nat) : List (Capture Rule) → List (String × Json)
  | [] => []
  | ⟨skip, patterns, name⟩ :: rest =>
    (toString (base + skip), captureJson (listJson patterns) name) ::
      capturesJson (base + skip + 1) rest

end

end Rule

def Capture.toJson (c : Capture Rule) : Json := Rule.captureJson (Rule.listJson c.patterns) c.name

namespace Grammar

def toJson (g : Grammar) : Json :=
  .object [("$schema", .text g.schema), ("name", .text g.name), ("scopeName", .text g.scopeName),
    ("patterns", .list (Rule.listJson g.patterns)),
    ("repository", .object (g.repository.entries.map fun e => (e.1, e.2.toJson)))]

/-- The document without the line feed that ends it. -/
def documentBody (g : Grammar) : String := .ofList (g.toJson.indented 0)

def document (g : Grammar) : String := g.documentBody ++ "\n"

end Grammar

end TextMate
