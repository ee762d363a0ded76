import Dimming.Grammar.RustExpression

/-!
# The items of Rust

Functions, types, traits, implementations, modules, imports, macros and the statements of a block.
Inside the brackets of a macro call there are only tokens.

The forms follow tree-sitter-rust 0.23 for items. What is left to its recovery from errors is left out.
-/

set_option autoImplicit false

namespace Dimming

namespace RustGrammar

open Form

/-- Who can see an item. -/
def visibility : Form := .opt (use "visibility_modifier")

/-- Generic parameters, if any. -/
def typeParameters : Form := .opt (.field "type_parameters" (use "type_parameters"))

/-- Conditions on generic parameters, if any. -/
def whereClause : Form := .opt (use "where_clause")

/-- The head of a function. -/
def functionHead : Form := .seq [visibility, .opt (use "function_modifiers"), "fn",
  .field "name" (.alt [nameAs "identifier", metavariable]), typeParameters,
  .field "parameters" (use "parameters"), use "return_type", whereClause]

/-- Punctuation that token trees keep apart, longer spellings first. -/
def punctuation : List String := [
  "<<=", ">>=", "...", "..=", "&&", "||", "<<", ">>", "+=", "-=", "*=", "/=", "%=", "^=", "&=", "|=",
  "==", "!=", ">=", "<=", "..", "::", "->", "=>", "+", "-", "*", "/", "%", "^", "!", "&", "|", "=",
  ">", "<", "@", "_", ".", ",", ";", ":", "#", "?"]

/-- A single token of a token tree. -/
def plainToken : List Form := literals ++ [mutable, placeWord "self", placeWord "super",
  placeWord "crate", primitive] ++ treeWords.map Form.lit ++ [
  .leaf "identifier" (nameExcept ("_" :: treeWords))] ++ punctuation.map Form.lit ++ [.lit "'"]

/-- Something any number of times in brackets of any sort. -/
def bracketed (part : Form) : Form :=
  .alt [parens (.many part), squares (.many part), braces (.many part)]

/-- A repetition in a macro, with a separator and a sign for how often. -/
def repetition (kind : String) (part : Form) : Form :=
  .node kind (.seq ["$", parens (.many part),
    .opt (.quiet (Scan.run (fun c => c != '+' && c != '*' && c != '?'))), .alt ["+", "*", "?"]])

/-- A macro definition's rules. -/
def macroRules : Form :=
  .seq [.many (.seq [use "macro_rule", ";"]), .opt (use "macro_rule")]

/-- The declarations that are statements of their own. -/
def declarations : List Form := [
  use "attribute_item", use "inner_attribute_item", use "macro_definition", use "empty_statement",
  use "let_declaration", use "use_declaration", use "function_item", use "function_signature_item",
  use "struct_item", use "enum_item", use "union_item", use "impl_item", use "trait_item",
  use "type_item", use "associated_type", use "mod_item", use "foreign_mod_item",
  use "extern_crate_declaration", use "const_item", use "static_item"]

/-- A macro call that is a statement because its brackets are braces. -/
def macroStatement : Form :=
  .seq [.ahead (.seq [.alt [use "path"], "!", "\x7b"]), use "macro_invocation",
    .absent (.alt [".", "?"])]

/-- The named forms of items. -/
def itemDefinitions : List Definition := [
  .plain "declaration" (.alt declarations),
  .plain "_statement" (.alt [use "declaration", macroStatement, use "expression_statement"]),
  .ofKind "expression_statement" (.alt [
    .seq [.alt blockForms, .absent (.alt [".", "?"])],
    .seq [use "_expression", ";"]]),
  .ofKind "empty_statement" ";",
  .ofKind "attribute_item" (.seq ["#", squares (use "attribute")]),
  .ofKind "inner_attribute_item" (.seq ["#", "!", squares (use "attribute")]),
  .ofKind "attribute" (.seq [use "path", .opt (.alt [
    .seq ["=", .field "value" (use "_expression")],
    .field "arguments" (.retitle "token_tree" true (use "delim_token_tree"))])]),
  .ofKind "visibility_modifier" (.alt [
    .seq ["pub", .opt (parens (.alt [placeWord "self", placeWord "super", placeWord "crate",
      .seq ["in", use "path"]]))],
    .seq [placeWord "crate", .absent "::"]]),
  .ofKind "function_modifiers" (many1 (.alt ["async", "default", "const", "unsafe",
    use "extern_modifier"])),
  .ofKind "extern_modifier" (.seq ["extern", .opt string]),
  .ofKind "function_item" (.seq [functionHead, .field "body" (use "block")]),
  .ofKind "function_signature_item" (.seq [functionHead, ";"]),
  .ofKind "parameters" (parens (.seq [commas (.seq [.opt (use "attribute_item"), .alt [
    use "parameter", use "self_parameter", use "variadic_parameter", "_", use "_type"]]), .opt ","])),
  .ofKind "parameter" (.seq [.opt mutable, .field "pattern" (.alt [use "_pattern", placeWord "self"]),
    .op ":" [":"], .field "type" (use "_type")]),
  .ofKind "self_parameter" (.seq [.opt "&", .opt (quotedName "lifetime"), .opt mutable,
    placeWord "self"]),
  .ofKind "variadic_parameter"
    (.seq [.opt mutable, .opt (.seq [.field "pattern" (use "_pattern"), ":"]), "..."]),
  .ofKind "let_declaration" (.seq ["let", .opt mutable, .field "pattern" (use "_pattern"),
    .opt (.seq [.op ":" [":"], .field "type" (use "_type")]),
    .opt (.seq [.op "=" ["="], .field "value" (use "_expression")]),
    .opt (.seq ["else", .field "alternative" (use "block")]), ";"]),
  .ofKind "mod_item" (.seq [visibility, "mod", .field "name" (nameAs "identifier"),
    .alt [";", .field "body" (use "declaration_list")]]),
  .ofKind "foreign_mod_item" (.seq [visibility, use "extern_modifier",
    .alt [";", .field "body" (use "declaration_list")]]),
  .ofKind "declaration_list" (braces (.many (.alt [use "declaration",
    .seq [use "macro_invocation"]]))),
  .ofKind "struct_item" (.seq [visibility, "struct", .field "name" typeName, typeParameters, .alt [
    .seq [whereClause, .field "body" (use "field_declaration_list")],
    .seq [.field "body" (use "ordered_field_declaration_list"), whereClause, ";"], ";"]]),
  .ofKind "union_item" (.seq [visibility, "union", .field "name" typeName, typeParameters,
    whereClause, .field "body" (use "field_declaration_list")]),
  .ofKind "enum_item" (.seq [visibility, "enum", .field "name" typeName, typeParameters,
    whereClause, .field "body" (use "enum_variant_list")]),
  .ofKind "enum_variant_list"
    (braces (.seq [commas (attributed (use "enum_variant")), .opt ","])),
  .ofKind "enum_variant" (.seq [visibility, .field "name" (nameAs "identifier"),
    .opt (.field "body" (.alt [use "field_declaration_list",
      use "ordered_field_declaration_list"])),
    .opt (.seq ["=", .field "value" (use "_expression")])]),
  .ofKind "field_declaration_list"
    (braces (.seq [commas (attributed (use "field_declaration")), .opt ","])),
  .ofKind "field_declaration" (.seq [visibility, .field "name" (nameAs "field_identifier"),
    .op ":" [":"], .field "type" (use "_type")]),
  .ofKind "ordered_field_declaration_list" (parens (.seq [
    commas (attributed (.seq [visibility, .field "type" (use "_type")])), .opt ","])),
  .ofKind "impl_item" (.seq [.opt "unsafe", "impl", typeParameters,
    .opt (.seq [.opt "!", .field "trait" (use "path_type"), "for"]),
    .field "type" (use "_type"), whereClause, .alt [.field "body" (use "declaration_list"), ";"]]),
  .ofKind "trait_item" (.seq [visibility, .opt "unsafe", "trait", .field "name" typeName,
    typeParameters, .opt (.field "bounds" (use "trait_bounds")), whereClause,
    .field "body" (use "declaration_list")]),
  .ofKind "associated_type" (.seq ["type", .field "name" typeName, typeParameters,
    .opt (.field "bounds" (use "trait_bounds")), whereClause, ";"]),
  .ofKind "type_item" (.seq [visibility, "type", .field "name" typeName, typeParameters, "=",
    .field "type" (use "_type"), whereClause, ";"]),
  .ofKind "const_item" (.seq [visibility, "const",
    .field "name" (.alt [nameAs "identifier", .leaf "identifier" (anyWord ["_"])]), .op ":" [":"],
    .field "type" (use "_type"), .opt (.seq ["=", .field "value" (use "_expression")]), ";"]),
  .ofKind "static_item" (.seq [visibility, "static", .opt "ref", .opt mutable,
    .field "name" (nameAs "identifier"), .op ":" [":"], .field "type" (use "_type"),
    .opt (.seq ["=", .field "value" (use "_expression")]), ";"]),
  .ofKind "extern_crate_declaration" (.seq [visibility, "extern", placeWord "crate",
    .field "name" (nameAs "identifier"), .opt (.seq ["as", .field "alias" (nameAs "identifier")]),
    ";"]),
  .ofKind "use_declaration" (.seq [visibility, "use", .field "argument" (use "use_clause"), ";"]),
  .plain "use_clause" (.alt [use "use_wildcard", use "scoped_use_list", use "use_list",
    use "use_as_clause", use "path"]),
  .ofKind "use_wildcard" (.seq [.opt (.seq [use "path", "::"]), "*"]),
  .ofKind "scoped_use_list" (.seq [.opt (.field "path" (use "path")), "::",
    .field "list" (use "use_list")]),
  .ofKind "use_list" (braces (.seq [commas (use "use_clause"), .opt ","])),
  .ofKind "use_as_clause" (.seq [.field "path" (use "path"), "as",
    .field "alias" (nameAs "identifier")]),
  .ofKind "macro_definition" (.seq ["macro_rules!", .field "name" (nameAs "identifier"), .alt [
    .seq [parens macroRules, ";"], .seq [squares macroRules, ";"], braces macroRules]]),
  .ofKind "macro_rule" (.seq [.field "left" (use "token_tree_pattern"), "=>",
    .field "right" (use "token_tree")]),
  .ofKind "token_tree_pattern" (bracketed (use "token_pattern")),
  .plain "token_pattern" (.alt ([use "token_tree_pattern",
    repetition "token_repetition_pattern" (use "token_pattern"),
    .node "token_binding_pattern" (.seq [.field "name" metavariable, ":",
      .field "type" (use "fragment_specifier")]),
    metavariable] ++ plainToken)),
  .ofKind "fragment_specifier" (.alt ["block", "expr", "expr_2021", "ident", "item", "lifetime",
    "literal", "meta", "pat", "pat_param", "path", "stmt", "tt", "ty", "vis"]),
  .ofKind "token_tree" (bracketed (use "macro_token")),
  .plain "macro_token" (.alt ([use "token_tree", repetition "token_repetition" (use "macro_token"),
    metavariable] ++ plainToken)),
  .plain "delim_token_tree" (.node "token_tree" (bracketed (use "delim_token"))),
  .plain "delim_token" (.alt ([use "delim_token_tree"] ++ plainToken ++ [.lit "$"])),
  .plain "shebang" (.leaf "shebang" (Scan.andMaybe
    (Scan.notBefore (Scan.text "#!") (fun c => c == '[')) (Scan.run (· != '\n'))))]

/-- A token that fits nowhere. -/
def stray : Form := .alt (literals ++ [mutable, placeWord "self", placeWord "super",
  placeWord "crate"]
  ++ (reserved.filter (fun word => !(["self", "super", "crate", "mut", "true", "false"].contains word))).map
    Form.lit
  ++ [nameAs "identifier", "(", ")", "[", "]", "\x7b", "\x7d"] ++ punctuation.map Form.lit
  ++ [.lit "'", .lit "$"])

end RustGrammar

/-- The grammar of Rust. -/
def rustGrammar : Grammar where
  root := "source_file"
  start := .seq [.opt (Form.use "shebang"), .many (Form.use "_statement"),
    .opt RustGrammar.openComment]
  stray := RustGrammar.stray
  definitions := RustGrammar.expressionDefinitions ++ RustGrammar.itemDefinitions
    ++ RustGrammar.typeDefinitions ++ RustGrammar.patternDefinitions
  families := [
    ("_expression", ["_literal"]),
    ("_literal", ["string_literal", "raw_string_literal", "char_literal", "boolean_literal",
      "integer_literal", "float_literal"]),
    ("_pattern", ["_literal_pattern"]),
    ("_literal_pattern", ["string_literal", "raw_string_literal", "char_literal",
      "boolean_literal", "integer_literal", "float_literal", "negative_literal"]),
    ("_type", [])]
  extras := RustGrammar.extras
  isWord := Scan.isNamePart
  isBlank := Scan.isAsciiBlank
  indented := false

end Dimming
