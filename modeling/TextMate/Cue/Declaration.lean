import TextMate.Cue.Lexeme
import TextMate.Rule

/-! Declarations, attributes, bindings, imports and the package clause. -/
namespace TextMate.Cue.Declaration

open Lexeme

/-- `@name(...)`. -/
def annotation : Rule :=
  .region {
    opening := "(@)(" ++ anyName ++ ")(\\()"
    openingCaptures := Capture.naming
      [(1, "punctuation.definition.annotation"), (2, "variable.annotation"),
        (3, "punctuation.attribute-elements.begin")]
    closing := "\\)"
    closingCaptures := Capture.naming [(0, "punctuation.attribute-elements.end")]
    patterns := Rule.includingAll ["#punctuation_comma", "#attribute_element"]
    name := "meta.annotation" }

/-- `key=value` inside an attribute. -/
def attributeLabel : Rule :=
  .region {
    opening := "(" ++ anyName ++ ")(=)"
    openingCaptures := Capture.naming [(1, "variable.other"), (2, "punctuation.bind")]
    closing := "(?=[,\\)])"
    patterns := Rule.includingAll ["#attribute_string"] }

/-- `key(...)` inside an attribute. -/
def attributeNested : Rule :=
  .region {
    opening := "(" ++ anyName ++ ")(\\()"
    openingCaptures := Capture.naming
      [(1, "variable.other"), (2, "punctuation.attribute-elements.begin")]
    closing := "\\)"
    closingCaptures := Capture.naming [(0, "punctuation.attribute-elements.end")]
    patterns := Rule.includingAll ["#punctuation_comma", "#attribute_element"] }

def attributeString : Rule :=
  .group { patterns := [
    .including "#string",
    .leaf { pattern := "[^\\n,\"'#=\\(\\)]+", name := "string.unquoted" },
    .leaf { pattern := "[^,\\)]+", name := "invalid" }] }

/-- A generic binding, a name in angle brackets. -/
def binding : Rule :=
  .leaf {
    pattern := "(<)(" ++ anyName ++ "|_)(>)"
    captures := Capture.naming
      [(1, "punctuation.definition.generic.begin"), (2, "variable.other"),
        (3, "punctuation.definition.generic.end")]
    name := "meta.generic" }

def declaration : Rule :=
  .alternatives
    ["#attribute", "#binding", "#punctuation_isa", "#punctuation_colon", "#punctuation_option",
      "#punctuation_bind", "#punctuation_arrow", "#expression"]

/-- The names of the groups of an import specification whose first group is `first`. -/
def importSpecNames (first : Nat) : List (Nat × String) :=
  [(first, "entity.name.namespace"), (first + 1, "punctuation.definition.string.begin"),
    (first + 2, "string.quoted.double-import"), (first + 3, "punctuation.colon"),
    (first + 4, "entity.name"), (first + 5, "punctuation.definition.string.end")]

/-- `import ( ... )`. -/
def importBlock : Rule :=
  .region {
    opening := wordStart ++ "(import)[ \\t]+(\\()"
    openingCaptures := Capture.naming
      [(1, "keyword.other.import"), (2, "punctuation.section.parens.begin")]
    closing := "\\)"
    closingCaptures := Capture.naming [(0, "punctuation.section.parens.end")]
    patterns := [
      .including "#whitespace",
      .including "#comment",
      .leaf {
        pattern := importSpec
        captures := Capture.naming (importSpecNames 1)
        name := "meta.import-spec" },
      .leaf { pattern := ";", name := "punctuation.separator" },
      .including "#invalid_in_parens"]
    name := "meta.imports" }

/-- An import of a single path. -/
def importSingle : Rule :=
  .leaf {
    pattern := wordStart ++ "(import)[ \\t]+" ++ importSpec
    captures := Capture.naming ((1, "keyword.other.import") :: importSpecNames 2)
    name := "meta.import" }

def package : Rule :=
  .leaf {
    pattern := wordStart ++ "(package)[ \\t]+(" ++ packageName ++ ")" ++ wordEnd
    captures := Capture.naming [(1, "keyword.other.package"), (2, "entity.name.namespace")] }

def entries : List (String × Rule) :=
  [("attribute", annotation),
    ("attribute_element", .alternatives
      ["#attribute_label", "#attribute_nested", "#attribute_string"]),
    ("attribute_label", attributeLabel),
    ("attribute_nested", attributeNested),
    ("attribute_string", attributeString),
    ("binding", binding),
    ("declaration", declaration),
    ("import", .group { patterns := [importBlock, importSingle] }),
    ("package", package)]

end TextMate.Cue.Declaration
