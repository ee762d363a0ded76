import Dimming.Grammar.RustPattern

/-!
# The expressions of Rust

Operators bind as in the table of `operators`, calls and field accesses most tightly. Where a block
follows an expression, a name does not take the brace for its own.

The forms follow tree-sitter-rust 0.23 for expressions. What is left to its recovery from errors is left
out.
-/

set_option autoImplicit false

namespace Dimming

namespace RustGrammar

open Form

/-- A binary operator with the tokens that it must not open. -/
def binary (power : Nat) (text : String) (others : List String) : Tail :=
  ⟨power, "binary_expression", some "left", some "_expression", [],
    .seq [.field "operator" (.op text others), .field "right" (.ref "_expression" (power + 1))]⟩

/-- An assignment that also computes. -/
def compound (text : String) : Tail :=
  ⟨2, "compound_assignment_expr", some "left", some "_expression", [],
    .seq [.field "operator" (.lit text), .field "right" (.ref "_expression" 3)]⟩

/-- What may follow an operand. -/
def operators : List Tail := [
  ⟨17, "await_expression", none, some "_expression", [], .seq [.op "." ["."], "await"]⟩,
  ⟨17, "field_expression", some "value", some "_expression", [], .seq [.op "." ["."], .field "field"
    (.alt [nameAs "field_identifier", .leaf "integer_literal" integer])]⟩,
  ⟨18, "call_expression", some "function", none, [], .field "arguments" (use "arguments")⟩,
  ⟨18, "index_expression", none, some "_expression", [], squares (use "_expression")⟩,
  ⟨16, "try_expression", none, some "_expression", [], "?"⟩,
  ⟨18, "generic_function", some "function", none,
    ["identifier", "scoped_identifier", "field_expression"], turbofish⟩,
  ⟨14, "type_cast_expression", some "value", some "_expression", [],
    .seq ["as", .field "type" (.ref "_type" 2)]⟩,
  binary 13 "*" ["="], binary 13 "/" ["="], binary 13 "%" ["="],
  binary 12 "+" ["="], binary 12 "-" ["="],
  binary 11 "<<" ["="], binary 11 ">>" ["="],
  binary 10 "&" ["&", "="], binary 9 "^" ["="], binary 8 "|" ["|", "="],
  binary 7 "==" [], binary 7 "!=" [], binary 7 "<=" [], binary 7 ">=" [],
  binary 7 "<" ["<", "="], binary 7 ">" [">", "="],
  binary 6 "&&" [], binary 5 "||" [],
  ⟨4, "range_expression", none, some "_expression", [],
    .seq [.alt ["..=", "...", ".."], .ref "_expression" 5]⟩,
  ⟨4, "range_expression", none, some "_expression", [], ".."⟩,
  ⟨2, "assignment_expression", some "left", some "_expression", [],
    .seq [.op "=" ["=", ">"], .field "right" (.ref "_expression" 3)]⟩,
  compound "+=", compound "-=", compound "*=", compound "/=", compound "%=", compound "&=",
  compound "|=", compound "^=", compound "<<=", compound ">>="]

/-- The expressions that end with a block. -/
def blockForms : List Form := [
  use "if_expression", use "match_expression", use "while_expression", use "loop_expression",
  use "for_expression", .node "unsafe_block" (.seq ["unsafe", use "block"]),
  .node "async_block" (.seq ["async", .opt "move", use "block"]),
  .node "gen_block" (.seq ["gen", .opt "move", use "block"]),
  .node "try_block" (.seq ["try", use "block"]), use "const_block", use "block"]

/-- An expression in parentheses, a tuple or the empty tuple. -/
def parenthesised : List Form := [
  .node "unit_expression" (.nest (.seq ["(", ")"])),
  .node "parenthesized_expression" (parens (use "_expression")),
  .node "tuple_expression" (parens (.seq [.many (use "attribute_item"), use "_expression", ",",
    .many (.seq [use "_expression", ","]), .opt (use "_expression")]))]

/-- Arguments and items with attributes before them. -/
def attributed (part : Form) : Form := .seq [.many (use "attribute_item"), part]

/-- The operands of operators. -/
def operands : Form := .alt (literals ++ [
  use "closure_expression"] ++ blockForms ++ [
  .node "unary_expression" (.seq [.alt ["-", "*", "!"], .ref "_expression" 15]),
  .node "reference_expression" (.seq ["&",
    .alt [.seq ["raw", .alt ["const", mutable], .field "value" (.ref "_expression" 15)],
      .seq [.opt mutable, .field "value" (.ref "_expression" 15)]]]),
  .node "range_expression" (.seq [.alt ["..=", ".."], .ref "_expression" 5]),
  .node "range_expression" "..",
  .node "return_expression" (.seq ["return", .opt (use "_expression")]),
  .node "yield_expression" (.seq ["yield", .opt (use "_expression")]),
  .node "break_expression" (.seq ["break", .opt (quotedName "label"), .opt (use "_expression")]),
  .node "continue_expression" (.seq ["continue", .opt (quotedName "label")])] ++ parenthesised ++ [
  .node "array_expression" (squares (.seq [.many (use "attribute_item"), .alt [
    .seq [use "_expression", ";", .field "length" (use "_expression")],
    .seq [commas (attributed (use "_expression")), .opt ","]]])),
  use "macro_invocation",
  use "struct_expression",
  use "path"])

/-- The named forms of expressions. -/
def expressionDefinitions : List Definition := [
  .ofFamily "_expression" operands operators,
  .ofFamily "_literal" (.alt literals) [],
  ⟨"path", none, .alt [use "turbofish_path", use "scoped_start", pathStart], [pathTail nothing]⟩,
  .plain "scoped_start" (.node "scoped_identifier" (.seq [
    .field "path" (.opt (use "bracketed_type")), "::",
    .field "name" (.alt [nameAs "identifier", placeWord "super"])])),
  .plain "turbofish_type" (.node "generic_type" (.seq [
    .field "type" (.alt [use "turbofish_scope", typeName]), turbofish])),
  ⟨"turbofish_scope", none, .seq [pathStart, .ahead (.seq ["::", .leaf "identifier" identifier])],
    [pathTail nothing]⟩,
  .plain "turbofish_path" (.node "scoped_identifier" (.seq [.field "path" (use "turbofish_type"),
    "::", .field "name" (nameAs "identifier")])),
  .plain "scoped_identifier" (.seq [.ahead (.alt [.seq [pathStart, "::"], "::", "<"]), use "path"]),
  .ofKind "macro_invocation" (.seq [
    .field "macro" (.alt [.seq [.ahead (.seq [pathStart, "::"]), use "path"],
      nameAs "identifier"]),
    "!", .retitle "token_tree" true (use "delim_token_tree")]),
  .ofKind "struct_expression" (.seq [.check (fun cursor => !cursor.bare),
    .field "name" (.alt [use "turbofish_type", use "scoped_type_identifier", typeName]),
    .field "body" (use "field_initializer_list")]),
  .ofKind "field_initializer_list" (braces (.seq [commas (.alt [
    .node "base_field_initializer" (.seq ["..", use "_expression"]),
    use "field_initializer",
    .node "shorthand_field_initializer" (attributed (nameAs "identifier"))]), .opt ","])),
  .ofKind "field_initializer" (attributed (.seq [
    .field "field" (.alt [nameAs "field_identifier", .leaf "integer_literal" integer]),
    .op ":" [":"], .field "value" (use "_expression")])),
  .ofKind "arguments" (parens (.seq [commas (attributed (use "_expression")), .opt ","])),
  .ofKind "closure_expression" (.seq [.opt "static", .opt "async", .opt "move",
    .field "parameters" (use "closure_parameters"),
    .alt [.seq ["->", .field "return_type" (use "_type"), .field "body" (use "block")],
      .field "body" (.alt [use "_expression", "_"])]]),
  .ofKind "closure_parameters"
    (.nest (.seq ["|", commas (.alt [use "plain_parameter", .ref "_pattern" 2]), "|"])),
  .plain "plain_parameter" (.node "parameter" (.seq [.opt mutable,
    .field "pattern" (.ref "_pattern" 2), .op ":" [":"], .field "type" (use "_type")])),
  .plain "condition" (.alt [use "let_chain", use "let_condition", use "_expression"]),
  .ofKind "let_condition" (.seq ["let", .field "pattern" (use "_pattern"), .op "=" ["="],
    .field "value" (.ref "_expression" 7)]),
  .ofKind "let_chain" (.seq [.alt [
      .seq [use "let_condition", "&&", .alt [use "let_condition", .ref "_expression" 7]],
      .seq [.ref "_expression" 7, .many (.seq ["&&", .ref "_expression" 7]), "&&",
        use "let_condition"]],
    .many (.seq ["&&", .alt [use "let_condition", .ref "_expression" 7]])]),
  .ofKind "if_expression" (.seq ["if", .field "condition" (.bare (use "condition")),
    .field "consequence" (use "block"), .opt (.field "alternative" (use "else_clause"))]),
  .ofKind "else_clause" (.seq ["else", .alt [use "block", use "if_expression"]]),
  .ofKind "match_expression" (.seq ["match", .field "value" (.bare (use "_expression")),
    .field "body" (use "match_block")]),
  .ofKind "match_block" (braces (.many (use "match_arm"))),
  .ofKind "match_arm" (.seq [.many (.alt [use "attribute_item", use "inner_attribute_item"]),
    .field "pattern" (use "match_pattern"), "=>", .alt [
      .seq [.field "value" (.alt blockForms), .absent (.alt [",", "\x7d", ".", "?"])],
      .seq [.field "value" (use "_expression"), .alt [",", .ahead "\x7d"]]]]),
  .ofKind "while_expression" (.seq [.opt (use "label_mark"), "while",
    .field "condition" (.bare (use "condition")), .field "body" (use "block")]),
  .ofKind "loop_expression" (.seq [.opt (use "label_mark"), "loop", .field "body" (use "block")]),
  .ofKind "for_expression" (.seq [.opt (use "label_mark"), "for", .field "pattern" (use "_pattern"),
    "in", .field "value" (.bare (use "_expression")), .field "body" (use "block")]),
  .plain "label_mark" (.seq [quotedName "label", ":"]),
  .ofKind "const_block" (.seq ["const", .field "body" (use "block")]),
  .ofKind "block" (.seq [.opt (use "label_mark"),
    braces (.seq [.many (use "_statement"), .opt (use "_expression")])])]

end RustGrammar

end Dimming
