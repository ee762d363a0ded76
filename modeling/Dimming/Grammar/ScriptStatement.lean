import Dimming.Grammar.ScriptType

/-!
# The statements of the script languages

Declarations, control flow, imports and exports. A block is read before an object, a declaration
before an expression, and a loop over members before a counting loop.

The forms follow tree-sitter-javascript 0.23 and tree-sitter-typescript 0.23 for statements. What is left
to their recovery from errors is left out.
-/

set_option autoImplicit false

namespace Dimming

namespace ScriptGrammar

open Form

/-- A condition in parentheses. -/
def condition (slot : String) : Form := .field slot (use "parenthesized_expression")

/-- A label. -/
def label (dialect : Dialect) : Form := .field "label" (name dialect "statement_identifier")

/-- A name that another module can use. -/
def exportedName : Form := .alt [.leaf "identifier" (word "default"), plainName "identifier", string]

/-- Where something is imported from. -/
def fromClause : Form := .seq ["from", .field "source" string]

/-- Marks that only types are meant. -/
def typeMark : Form := .alt ["type", "typeof"]

/-- A form with or without a mark that only types are meant. -/
def perhapsTypes (dialect : Dialect) (form : Form) : Form :=
  if dialect.typed then .alt [.seq [typeMark, form], form] else form

/-- A function that is declared by its name. -/
def functionHead (mark : String) (dialect : Dialect) : Form := .seq [.opt "async", "function",
  if mark.isEmpty then nothing else .lit mark, .field "name" (plainName "identifier"),
  callSignature dialect]

/-- The declarations. -/
def declarations (dialect : Dialect) : List Form := [
  use "generator_function_declaration", use "function_declaration", use "class_declaration",
  use "lexical_declaration", use "variable_declaration"] ++ onlyTyped dialect [
  use "function_signature", use "abstract_class_declaration", use "module", use "internal_module",
  use "type_alias_declaration", use "enum_declaration", use "interface_declaration",
  use "import_alias", use "ambient_declaration"]

/-- A word in front of something declared. -/
def opener (text : String) : Form := .seq [.lit text, .check sameLine]

/-- The parts of a loop over members. -/
def loopHeader : Form :=
  let titles := Form.field "left" (.alt [plainName "identifier", destructuring])
  .seq [.alt [
      .seq [.field "kind" "var", titles, .opt initializer],
      .seq [.field "kind" (.alt ["let", "const"]), titles],
      .field "left" (.alt [destructuring, use "place", use "parenthesized_expression"])],
    .field "operator" (.alt ["in", "of"]), .field "right" (use "expressions")]

/-- The named forms of the statements that every dialect has. -/
def statementDefinitions (dialect : Dialect) : List Definition := [
  .ofFamily "statement" (.alt [
    use "export_statement", use "import_statement",
    .node "debugger_statement" (.seq ["debugger", semicolon]),
    use "statement_block", use "if_statement", use "switch_statement", use "for_in_statement",
    use "for_statement", use "while_statement", use "do_statement", use "try_statement",
    use "with_statement", use "break_statement", use "continue_statement", use "return_statement",
    .node "throw_statement" (.seq ["throw", use "expressions", semicolon]),
    use "empty_statement", use "labeled_statement",
    typedChoice dialect (use "namespace_statement"),
    use "declaration", use "expression_statement"]) [],
  .ofFamily "declaration" (.alt (declarations dialect)) [],
  .ofKind "expression_statement" (.seq [use "expressions", semicolon]),
  .ofKind "empty_statement" ";",
  .ofKind "statement_block" (braces (.many (use "statement"))),
  .ofKind "if_statement" (.seq ["if", condition "condition",
    .field "consequence" (use "statement"), .opt (.field "alternative" (use "else_clause"))]),
  .ofKind "else_clause" (.seq ["else", use "statement"]),
  .ofKind "switch_statement" (.seq ["switch", condition "value",
    .field "body" (use "switch_body")]),
  .ofKind "switch_body" (braces (.many (.alt [use "switch_case", use "switch_default"]))),
  .ofKind "switch_case" (.seq ["case", .field "value" (use "expressions"), ":",
    .field "body" (.many (use "statement"))]),
  .ofKind "switch_default" (.seq ["default", ":", .field "body" (.many (use "statement"))]),
  .ofKind "for_statement" (.seq ["for", parens (.seq [
    .alt [.field "initializer" (.alt [use "lexical_declaration", use "variable_declaration"]),
      .seq [.field "initializer" (use "expressions"), ";"],
      .field "initializer" (use "empty_statement")],
    .field "condition" (.alt [.seq [use "expressions", ";"], use "empty_statement"]),
    .opt (.field "increment" (use "expressions"))]), .field "body" (use "statement")]),
  .ofKind "for_in_statement" (.seq ["for", .opt "await", parens (loopHeader),
    .field "body" (use "statement")]),
  .ofKind "while_statement" (.seq ["while", condition "condition",
    .field "body" (use "statement")]),
  .ofKind "do_statement" (.seq ["do", .field "body" (use "statement"), "while",
    condition "condition", .opt semicolon]),
  .ofKind "try_statement" (.seq ["try", .field "body" (use "statement_block"),
    .opt (.field "handler" (use "catch_clause")),
    .opt (.field "finalizer" (use "finally_clause"))]),
  .ofKind "catch_clause" (.seq ["catch", .opt (parens (.seq [
    .field "parameter" (.alt [plainName "identifier", destructuring]), annotation dialect])),
    .field "body" (use "statement_block")]),
  .ofKind "finally_clause" (.seq ["finally", .field "body" (use "statement_block")]),
  .ofKind "with_statement" (.seq ["with", condition "object", .field "body" (use "statement")]),
  .ofKind "break_statement" (.seq ["break", .opt (.seq [.check sameLine, label dialect]),
    semicolon]),
  .ofKind "continue_statement" (.seq ["continue", .opt (.seq [.check sameLine, label dialect]),
    semicolon]),
  .ofKind "return_statement" (.seq ["return", .opt (.seq [.check sameLine, use "expressions"]),
    semicolon]),
  .ofKind "labeled_statement" (.seq [label dialect, ":", .field "body" (use "statement")]),
  .ofKind "lexical_declaration" (.seq [.field "kind" (.alt ["let", "const"]),
    sepBy1 (use "variable_declarator") ",", semicolon]),
  .ofKind "variable_declaration" (.seq ["var", sepBy1 (use "variable_declarator") ",", semicolon]),
  .ofKind "variable_declarator" (.alt (onlyTyped dialect [
      .seq [.field "name" (plainName "identifier"), "!", .field "type" (use "type_annotation")]] ++ [
    .seq [.field "name" (.alt [plainName "identifier", destructuring]), annotation dialect,
      .opt initializer]])),
  .ofKind "function_declaration"
    (.seq [functionHead "" dialect, .field "body" (use "statement_block")]),
  .ofKind "generator_function_declaration"
    (.seq [functionHead "*" dialect, .field "body" (use "statement_block")]),
  .ofKind "class_declaration" (.seq [decorators, "class", className dialect, classRest dialect]),
  .ofKind "import_statement" (.seq ["import", .alt [
      perhapsTypes dialect (.seq [use "import_clause", fromClause]),
      typedChoice dialect (use "import_require_clause"),
      .field "source" string],
    .opt (use "import_attribute"), semicolon]),
  .ofKind "import_attribute" (.seq ["with", use "object"]),
  .ofKind "import_clause" (.alt [use "namespace_import", use "named_imports",
    .seq [plainName "identifier", .opt (.seq [",",
      .alt [use "namespace_import", use "named_imports"]])]]),
  .ofKind "namespace_import" (.seq ["*", "as", plainName "identifier"]),
  .ofKind "named_imports" (braces (.seq [commas (use "import_specifier"), .opt ","])),
  .ofKind "import_specifier" (perhapsTypes dialect (.alt [
    .seq [.field "name" exportedName, "as", .field "alias" (plainName "identifier")],
    .field "name" (plainName "identifier")])),
  .ofKind "export_statement" (.alt (onlyTyped dialect [
      .seq ["export", "type", use "export_clause", .opt fromClause, semicolon],
      .seq ["export", use "import_alias"],
      .seq ["export", equals, use "expression", semicolon],
      .seq ["export", "as", "namespace", plainName "identifier", semicolon]] ++ [
    .seq ["export", .alt [
      .seq [use "namespace_export", fromClause], .seq ["*", fromClause],
      .seq [use "export_clause", fromClause], use "export_clause"], semicolon],
    .seq [decorators, "export", .alt [
      .field "declaration" (use "declaration"),
      .seq ["default", .alt [.field "declaration" (use "declaration"),
        .seq [.field "value" (use "expression"), semicolon]]]]]])),
  .ofKind "namespace_export" (.seq ["*", "as", exportedName]),
  .ofKind "export_clause" (braces (.seq [commas (use "export_specifier"), .opt ","])),
  .ofKind "export_specifier" (perhapsTypes dialect (.seq [.field "name" exportedName,
    .opt (.seq ["as", .field "alias" exportedName])])),
  .plain "hash_bang_line"
    (.leaf "hash_bang_line" (Scan.andMaybe (Scan.text "#!") (Scan.run (· != '\n'))))]

/-- The named forms of the statements about types. -/
def typedStatementDefinitions (dialect : Dialect) : List Definition := [
  .plain "namespace_statement" (.node "expression_statement"
    (.seq [use "internal_module", .opt semicolon])),
  .ofKind "function_signature" (.seq [functionHead "" dialect, semicolon]),
  .ofKind "abstract_class_declaration" (.seq [decorators, opener "abstract", "class",
    className dialect, classRest dialect]),
  .ofKind "module" (.seq [opener "module", use "module_body"]),
  .ofKind "internal_module" (.seq [opener "namespace", use "module_body"]),
  .plain "module_body" (.seq [.field "name" (.alt [string, use "module_name"]),
    .opt (.field "body" (use "statement_block"))]),
  .ofKind "type_alias_declaration" (.seq [opener "type", .field "name" typeName,
    .opt (.field "type_parameters" (use "type_parameters")), equals,
    .field "value" (use "type"), semicolon]),
  .ofKind "enum_declaration" (.seq [.opt "const", "enum", .field "name" (plainName "identifier"),
    .field "body" (use "enum_body")]),
  .ofKind "enum_body" (braces (.seq [commas (.alt [use "enum_assignment",
    .field "name" (propertyName dialect)]), .opt ","])),
  .ofKind "enum_assignment" (.seq [.field "name" (propertyName dialect), initializer]),
  .ofKind "interface_declaration" (.seq [opener "interface", .field "name" typeName,
    .opt (.field "type_parameters" (use "type_parameters")), .opt (use "extends_type_clause"),
    .field "body" (.retitle "interface_body" true (use "object_type"))]),
  .ofKind "extends_type_clause" (.seq ["extends", sepBy1 (.field "type" (use "heritage_type")) ","]),
  ⟨"heritage_type", none, .alt [use "nested_type_identifier", typeName], typeTails.take 1⟩,
  .ofKind "import_alias" (.seq ["import", plainName "identifier", "=",
    .absent (.seq ["require", "("]), use "module_name", semicolon]),
  .ofKind "import_require_clause" (.seq [plainName "identifier", "=", "require",
    parens (.field "source" string)]),
  .ofKind "ambient_declaration" (.seq [opener "declare", .alt [
    .seq ["global", use "statement_block"],
    .seq ["module", ".", anyName "property_identifier", ":", use "type", semicolon],
    use "declaration"]])]

end ScriptGrammar

end Dimming
