import Dimming.Rules.RuleSet

/-!
# Built-in rules

The overlay tables hold the patterns of low-information text, and a map says which table serves which
language. Base highlighting marks comments, strings and constants, one feature each.
-/

set_option autoImplicit false

namespace Dimming

/-- A named list of entries. -/
structure RuleTable where
  name : String
  entries : List Entry
  deriving DecidableEq, Repr, Inhabited

namespace Tables

/-- Entries without a style. -/
def plain (patterns : List String) : List Entry := patterns.map (fun pattern => ⟨pattern, none⟩)

/-- Brackets of every sort. -/
def brackets : String := "[\"\x7b\" \"\x7d\" \"(\" \")\" \"[\" \"]\"]"

/-- The overlay patterns of JavaScript. -/
def javaScript : List String := [
  "[\"import\" \"export\" \"from\" \"as\" \"default\"]",
  "[\"return\" \"if\" \"else\" \"for\" \"while\" \"do\" \"switch\" \"case\" \"break\" \"continue\"]",
  "[\"const\" \"let\" \"var\" \"function\" \"class\" \"new\" \"async\" \"await\" \"extends\"]",
  "(this)",
  "(super)",
  brackets,
  "[\";\" \",\" \".\" \":\"]"]

/-- The overlay patterns that TypeScript adds to those of JavaScript. -/
def typeScriptModifiers : List String := [
  "(accessibility_modifier)",
  "[\"readonly\" \"abstract\" \"static\"]",
  "[\"type\" \"interface\" \"implements\"]"]

/-- The overlay patterns of Rust. -/
def rust : List String := [
  "[\"use\" \"mod\" \"pub\"]",
  "[\"fn\" \"let\" \"struct\" \"enum\" \"impl\" \"trait\" \"type\" \"where\" \"const\" \"static\"]",
  "[\"return\" \"if\" \"else\" \"match\" \"for\" \"while\" \"loop\" \"break\" \"continue\" \"in\" \"as\"]",
  "[(self) (crate) (super)]",
  "(mutable_specifier)",
  "[\"async\" \"await\" \"unsafe\" \"move\" \"ref\" \"dyn\"]",
  brackets,
  "[\";\" \",\" \".\" \"::\" \":\" \"->\" \"=>\"]"]

/-- The overlay patterns of JSON. -/
def json : List String := ["[\"\x7b\" \"\x7d\" \"[\" \"]\"]", "[\":\" \",\"]"]

/-- The built-in overlay tables. -/
def overlays : List RuleTable := [
  ⟨"javascript", plain javaScript⟩,
  ⟨"typescript", plain (javaScript ++ typeScriptModifiers)⟩,
  ⟨"rust", plain rust⟩,
  ⟨"json", plain json⟩]

/-- Which overlay table serves which language. Python has a grammar but no overlay. -/
def languageMap : List (Language × String) := [
  (.javaScript, "javascript"),
  (.typeScript, "typescript"),
  (.tsx, "typescript"),
  (.rust, "rust"),
  (.json, "json")]

/-- The features of base highlighting, in the order of their tiers. -/
def baseFeatureNames : List String := ["comment", "string", "constant"]

/-- The feature list of base highlighting: one tier for each feature. -/
def baseFeatures : FeatureList :=
  FeatureList.ofTiers (baseFeatureNames.map (fun name => [⟨name⟩]))

/-- The base patterns of a language, each with its feature. -/
def basePatterns : Language → List (String × List String)
  | .rust => [
    ("comment", ["[(line_comment) (block_comment)]"]),
    ("string", ["[(string_literal) (raw_string_literal) (char_literal)]"]),
    ("constant", ["[(integer_literal) (float_literal) (boolean_literal)]"])]
  | .python => [
    ("comment", ["(comment)"]),
    ("string", ["(string)"]),
    ("constant", ["[(integer) (float) (true) (false) (none)]"])]
  | .json => [
    ("comment", []),
    ("string", ["(string)"]),
    ("constant", ["[(number) (true) (false) (null)]"])]
  | _ => [
    ("comment", ["(comment)"]),
    ("string", ["[(string) (template_string)]"]),
    ("constant", ["[(number) (true) (false) (null)]"])]

/-- Compiles groups of patterns one after the other; the feature of a group is also its style. -/
def compileGroups (compiler : Compiler) (language : Language) :
    Supply → List (String × List String) → Except LanguageError (RuleSet × Supply)
  | supply, [] => .ok (RuleSet.empty, supply)
  | supply, (feature, patterns) :: rest =>
    match RuleSet.compile compiler language ⟨feature⟩ ⟨feature⟩ supply (plain patterns) with
    | .error cause => .error cause
    | .ok (set, supply) =>
      match compileGroups compiler language supply rest with
      | .error cause => .error cause
      | .ok (more, supply) => .ok (set.concat more, supply)

/-- Compiles the base highlighting of a language. -/
def baseRules (supply : Supply) (language : Language) :
    Except LanguageError (RuleSet × Supply) :=
  compileGroups compilePattern language supply (basePatterns language)

end Tables

end Dimming
