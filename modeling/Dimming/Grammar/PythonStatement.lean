import Dimming.Grammar.PythonExpression

/-!
# The statements of Python

Simple statements stand on a line, several of them behind semicolons; compound statements hold blocks.
A clause such as `else` belongs to a statement only if its line does.

The forms follow tree-sitter-python 0.25 for statements, the print and exec statements of old versions
included. What is left to its recovery from errors is left out.
-/

set_option autoImplicit false

namespace Dimming

namespace PythonGrammar

open Form

/-- A clause that opens a line of the block. -/
def clause (part : Form) : Form := .seq [.check inBlock, part]

/-- The alternative of a statement. -/
def alternative : Form := .opt (clause (.field "alternative" (use "else_clause")))

/-- A colon and the block behind it. -/
def bodyIn (slot : String) : Form := .seq [":", .field slot (use "suite")]

/-- Something imported, under a name of its own or another one. -/
def imported : Form :=
  commaList (.field "name" (.alt [use "aliased_import", use "dotted_name"]))

/-- An equals sign. -/
def equals : Form := .op "=" ["="]

/-- The operators of assignments that also compute. -/
def compounds : Form := .alt [
  "+=", "-=", "**=", "*=", "@=", "//=", "/=", "%=", ">>=", "<<=", "&=", "^=", "|="]

/-- A pattern whose members stand in brackets. -/
def patternRow : Form := .opt (commaList (use "case_pattern"))

/-- A number in a pattern. -/
def patternNumber : Form := .alt [.leaf "float" float, .leaf "integer" integer]

/-- The statements that stand on one line. -/
def simpleForms : List Form := [
  .node "future_import_statement" (.seq ["from", "__future__", "import",
    .alt [parens imported, imported]]),
  .node "import_statement" (.seq ["import", imported]),
  .node "import_from_statement" (.seq ["from",
    .field "module_name" (.alt [use "relative_import", use "dotted_name"]), "import",
    .alt [.node "wildcard_import" "*", parens imported, imported]]),
  .node "print_statement" (.alt [
    .seq ["print", .node "chevron" (.seq [">>", use "expression"]),
      .many (.seq [",", .field "argument" (use "expression")]), .opt ","],
    .seq ["print",
      .ahead (.alt [identifier, .leaf "integer" integer, .leaf "float" float, use "string"]),
      sepBy1 (.field "argument" (use "expression")) ",", .opt ","]]),
  .node "assert_statement" (.seq ["assert", sepBy1 (use "expression") ","]),
  .node "return_statement" (.seq ["return", .opt (use "expressions")]),
  .node "delete_statement" (.seq ["del", use "expressions"]),
  .node "raise_statement" (.seq ["raise", .opt (use "expressions"),
    .opt (.seq ["from", .field "cause" (use "expression")])]),
  .node "pass_statement" "pass",
  .node "break_statement" "break",
  .node "continue_statement" "continue",
  .node "global_statement" (.seq ["global", sepBy1 identifier ","]),
  .node "nonlocal_statement" (.seq ["nonlocal", sepBy1 identifier ","]),
  .node "exec_statement" (.seq ["exec", .field "code" (.alt [use "string", identifier]),
    .opt (.seq ["in", sepBy1 (use "expression") ","])]),
  .node "type_alias_statement" (.seq ["type", .field "left" (use "type"), equals,
    .field "right" (use "type")]),
  .node "expression_statement" (.alt [use "assignment", use "augmented_assignment", use "yield",
    commaList (use "expression")])]

/-- The statements that hold blocks. -/
def compoundForms : List Form := [
  .node "if_statement" (.seq ["if", .field "condition" (use "expression"), bodyIn "consequence",
    .many (clause (.field "alternative" (use "elif_clause"))), alternative]),
  .node "for_statement" (.seq [.opt "async", "for", .field "left" (use "left_side"), "in",
    .field "right" (use "expressions"), bodyIn "body", alternative]),
  .node "while_statement" (.seq ["while", .field "condition" (use "expression"), bodyIn "body",
    alternative]),
  .node "try_statement" (.seq ["try", bodyIn "body", .alt [
    .seq [many1 (clause (use "except_clause")), .opt (clause (use "else_clause")),
      .opt (clause (use "finally_clause"))],
    .seq [many1 (clause (use "except_group_clause")), .opt (clause (use "else_clause")),
      .opt (clause (use "finally_clause"))],
    clause (use "finally_clause")]]),
  .node "with_statement" (.seq [.opt "async", "with", use "with_clause", bodyIn "body"]),
  use "function_definition", use "class_definition",
  .node "decorated_definition" (.seq [many1 (use "decorator"),
    .field "definition" (.alt [use "class_definition", use "function_definition"])]),
  .node "match_statement" (.seq ["match", .absent (.alt [":", "=", ".", ",", ")"]),
    commaList (.field "subject" (use "expression")), ":", .field "body" (use "match_block")])]

/-- The patterns of a case. -/
def simplePatterns : Form := .alt [
  .node "class_pattern" (.seq [use "dotted_name", parens patternRow]),
  .node "splat_pattern" (.seq [.alt ["**", "*"], .alt ["_", identifier]]),
  .node "list_pattern" (squares patternRow),
  .node "tuple_pattern" (parens patternRow),
  .node "dict_pattern" (braces (.opt (commaList (.alt [
    .node "splat_pattern" (.seq [.alt ["**", "*"], .alt ["_", identifier]]),
    .seq [.field "key" (use "simple_pattern"), ":", .field "value" (use "case_pattern")]])))),
  use "string_run",
  wordNode "true" "True", wordNode "false" "False", wordNode "none" "None",
  .node "complex_pattern" (.seq [.opt "-", patternNumber, .alt ["+", "-"], patternNumber]),
  .seq [.opt "-", patternNumber],
  .seq ["_", .absent "."],
  use "dotted_name"]

/-- The named forms of statements. -/
def statementDefinitions : List Definition := [
  .plain "statement" (.seq [.check inBlock, .alt (compoundForms ++ [use "simple_statements"])]),
  .plain "simple_statements" (.seq [sepBy1 (.alt simpleForms) ";", .opt ";", lineEnd]),
  .plain "suite" (.alt [.node "block" (use "simple_statements"), .seq [indent, use "block"],
    .node "block" lineEnd]),
  .ofKind "block" (.seq [.many (use "statement"), dedent]),
  .plain "match_block" (.node "block" (.alt [
    .seq [indent, .many (clause (.field "alternative" (use "case_clause"))), dedent], lineEnd])),
  .ofKind "elif_clause" (.seq ["elif", .field "condition" (use "expression"),
    bodyIn "consequence"]),
  .ofKind "else_clause" (.seq ["else", bodyIn "body"]),
  .ofKind "except_clause" (.seq ["except", .absent "*", .opt (.seq [
    .field "value" (use "expression"),
    .opt (.seq [.alt ["as", ","], .field "alias" (use "expression")])]), ":", use "suite"]),
  .ofKind "except_group_clause" (.seq ["except*", use "expression",
    .opt (.seq ["as", use "expression"]), ":", use "suite"]),
  .ofKind "finally_clause" (.seq ["finally", ":", use "suite"]),
  .ofKind "with_clause" (.alt [.seq [parens (commaList (use "with_item")), .ahead ":"],
    commaList (use "with_item")]),
  .ofKind "with_item" (.field "value" (use "expression")),
  .ofKind "function_definition" (.seq [.opt "async", "def", .field "name" identifier,
    .opt (.field "type_parameters" (use "type_parameter")), .field "parameters" (use "parameters"),
    .opt (.seq ["->", .field "return_type" (use "type")]), bodyIn "body"]),
  .ofKind "class_definition" (.seq ["class", .field "name" identifier,
    .opt (.field "type_parameters" (use "type_parameter")),
    .opt (.field "superclasses" (use "argument_list")), bodyIn "body"]),
  .ofKind "decorator" (.seq ["@", use "expression", lineEnd]),
  .ofKind "case_clause" (.seq ["case", commaList (use "case_pattern"),
    .opt (.field "guard" (use "if_clause")), bodyIn "consequence"]),
  .ofKind "case_pattern" (.alt [
    .node "as_pattern" (.seq [use "plain_case_pattern", "as", identifier]),
    use "case_form"]),
  .plain "plain_case_pattern" (.node "case_pattern" (use "case_form")),
  .plain "case_form" (.alt [
    .node "keyword_pattern" (.seq [identifier, equals, use "simple_pattern"]),
    use "simple_pattern"]),
  ⟨"simple_pattern", none, simplePatterns, [⟨1, "union_pattern", none, none, [],
    many1 (.seq ["|", .ref "simple_pattern" 2])⟩]⟩,
  .ofKind "dotted_name" (sepBy1 identifier "."),
  .ofKind "relative_import" (.seq [.node "import_prefix" (many1 "."), .opt (use "dotted_name")]),
  .ofKind "aliased_import" (.seq [.field "name" (use "dotted_name"), "as",
    .field "alias" identifier]),
  .ofKind "assignment" (.seq [.field "left" (use "left_side"), .alt [
    .seq [equals, .field "right" (use "right_side")],
    .seq [typeNote, .opt (.seq [equals, .field "right" (use "right_side")])]]]),
  .ofKind "augmented_assignment" (.seq [.field "left" (use "left_side"),
    .field "operator" compounds, .field "right" (use "right_side")]),
  .plain "right_side" (.alt [use "assignment", use "augmented_assignment", use "yield",
    use "expressions"])]

/-- A token that fits nowhere. The quotes of a string that stays open are one token. -/
def stray : Form := .alt ([
  string, .alt (Quotes.all.map fun quotes => .leaf "string_start" quotes.opening),
  .leaf "float" float, .leaf "integer" integer, wordNode "true" "True",
  wordNode "false" "False", wordNode "none" "None"]
  ++ (reserved.filter (fun text => !(["True", "False", "None"].contains text))).map Form.lit
  ++ [identifier]
  ++ ["**=", "//=", ">>=", "<<=", "...", "->", ":=", "**", "//", "<<", ">>", "<=", ">=", "==", "!=",
    "+=", "-=", "*=", "/=", "%=", "@=", "&=", "|=", "^=", "(", ")", "[", "]", "\x7b", "\x7d", ",", ":",
    ".", ";", "=", "@", "+", "-", "*", "/", "%", "|", "&", "^", "~", "<", ">"].map Form.lit)

end PythonGrammar

/-- The grammar of Python. -/
def pythonGrammar : Grammar where
  root := "module"
  start := .many (Form.use "statement")
  stray := PythonGrammar.stray
  definitions := PythonGrammar.expressionDefinitions ++ PythonGrammar.statementDefinitions
  families := [
    ("expression", ["primary_expression"]),
    ("primary_expression", PythonGrammar.tightKinds),
    ("pattern", []),
    ("parameter", [])]
  extras := PythonGrammar.extras
  isWord := Scan.isNamePart
  isBlank := PythonGrammar.isBlank
  indented := true

end Dimming
