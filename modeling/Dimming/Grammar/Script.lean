import Dimming.Grammar.ScriptMarkup
import Dimming.Grammar.ScriptStatement

/-!
# The grammars of the script languages

One grammar for each dialect, put together from expressions, statements, markup and types.

They are the grammars of tree-sitter-javascript 0.23 and of the two dialects of tree-sitter-typescript
0.23. What is left to their recovery from errors is left out.
-/

set_option autoImplicit false

namespace Dimming

namespace ScriptGrammar

open Form

/-- Punctuation that is set apart where nothing fits, longer spellings first. -/
def punctuationTokens : List String := [
  ">>>=", "===", "!==", "**=", "<<=", ">>=", ">>>", "&&=", "||=", "??=", "...", "=>", "==", "!=", "<=",
  ">=", "&&", "||", "??", "?.", "++", "--", "+=", "-=", "*=", "/=", "%=", "&=", "|=", "^=", "**", "<<",
  ">>", "(", ")", "[", "]", "\x7b", "\x7d", ";", ",", ".", ":", "?", "=", "<", ">", "+", "-", "*", "/",
  "%", "&", "|", "^", "!", "~", "@", "#"]

/-- The keywords that have no node of their own. -/
def keywords (dialect : Dialect) : List String :=
  reserved.filter (fun text =>
    !(["this", "super", "true", "false", "null", "undefined"].contains text))
  ++ softWords ++ onlyTyped dialect ["interface", "enum", "implements", "abstract"]

/-- A token that fits nowhere. A string that stays open is taken apart. -/
def stray (dialect : Dialect) : Form := .alt ([string, openQuoted '"', openQuoted '\x27', use "template_string",
  .leaf "number" number, wordNode "this", wordNode "super", wordNode "true", wordNode "false",
  wordNode "null", wordNode "undefined"]
  ++ (keywords dialect).map Form.lit ++ [plainName "identifier"]
  ++ punctuationTokens.map Form.lit)

/-- The kinds that belong to the declarations. -/
def declarationKinds (dialect : Dialect) : List String := [
  "function_declaration", "generator_function_declaration", "class_declaration",
  "lexical_declaration", "variable_declaration"] ++ onlyTyped dialect [
  "function_signature", "abstract_class_declaration", "module", "internal_module",
  "type_alias_declaration", "enum_declaration", "interface_declaration", "import_alias",
  "ambient_declaration"]

/-- The kinds of types that bind as tightly as a name. -/
def primaryTypes : List String := [
  "parenthesized_type", "predefined_type", "type_identifier", "nested_type_identifier",
  "generic_type", "object_type", "array_type", "tuple_type", "flow_maybe_type", "type_query",
  "index_type_query", "this_type", "existential_type", "literal_type", "lookup_type",
  "conditional_type", "template_literal_type", "intersection_type", "union_type"]

/-- The grammar of a dialect. -/
def grammarOf (dialect : Dialect) : Grammar where
  root := "program"
  start := .seq [.opt (use "hash_bang_line"), .many (use "statement")]
  stray := stray dialect
  definitions := expressionDefinitions dialect ++ statementDefinitions dialect
    ++ (if dialect.markup then markupDefinitions dialect else [])
    ++ (if dialect.typed then typeDefinitions dialect ++ typedStatementDefinitions dialect else [])
  families := [
    ("statement", ["declaration"]),
    ("declaration", declarationKinds dialect),
    ("expression", ["primary_expression"]),
    ("primary_expression", primaryKinds dialect),
    ("pattern", [])] ++ onlyTyped dialect [
    ("type", ["primary_type"]),
    ("primary_type", primaryTypes)]
  extras := extras
  isWord := isWordPart
  isBlank := isBlank
  indented := false

end ScriptGrammar

/-- The grammar of JavaScript, which knows markup. -/
def javaScriptGrammar : Grammar := ScriptGrammar.grammarOf ⟨false, true⟩

/-- The grammar of TypeScript. -/
def typeScriptGrammar : Grammar := ScriptGrammar.grammarOf ⟨true, false⟩

/-- The grammar of TypeScript with markup. -/
def typeScriptMarkupGrammar : Grammar := ScriptGrammar.grammarOf ⟨true, true⟩

end Dimming
