import Dimming.Grammar.PythonToken

/-!
# The expressions of Python

Operators bind as in `tightOperators` and `operators`. Comparisons, arithmetic, calls and selections
take operands that bind tightly themselves; conditions, `and`, `or` and `not` take any expression.

The forms follow tree-sitter-python 0.25 for expressions. What is left to its recovery from errors is
left out.
-/

set_option autoImplicit false

namespace Dimming

namespace PythonGrammar

open Form

/-- The kinds of operands that bind tightly. -/
def tightKinds : List String := [
  "await", "binary_operator", "identifier", "string", "concatenated_string", "integer", "float", "true",
  "false", "none", "unary_operator", "attribute", "subscript", "call", "list", "list_comprehension",
  "dictionary", "dictionary_comprehension", "set", "set_comprehension", "tuple",
  "parenthesized_expression", "generator_expression", "ellipsis", "list_splat"]

/-- An operand that binds tightly and at least as much as a power. -/
def tight (power : Nat) : Form := .ref "primary_expression" power

/-- A list that may end in a comma. -/
def commaList (part : Form) : Form := .seq [sepBy1 part ",", .opt ","]

/-- A single star. -/
def star : Form := .op "*" ["*"]

/-- An arithmetic operator, with the tokens that it must not open. -/
def arithmetic (power right : Nat) (text : String) (others : List String) : Tail :=
  ⟨power, "binary_operator", some "left", some "primary_expression", tightKinds,
    .seq [.field "operator" (.op text others), .field "right" (tight right)]⟩

/-- What selects an attribute. -/
def attributeBody : Form := .seq [.op "." [".."], .field "attribute" identifier]

/-- What selects elements. -/
def subscriptBody : Form := squares (commaList (.field "subscript" (use "subscript_item")))

/-- The arguments of a call. -/
def callBody : Form :=
  .field "arguments" (.alt [use "argument_list", use "generator_expression"])

/-- What may follow an operand that binds tightly. -/
def tightOperators : List Tail := [
  ⟨22, "attribute", some "object", some "primary_expression", tightKinds, attributeBody⟩,
  ⟨22, "subscript", some "value", some "primary_expression", tightKinds, subscriptBody⟩,
  ⟨22, "call", some "function", some "primary_expression", tightKinds, callBody⟩,
  arithmetic 21 21 "**" ["="], arithmetic 19 20 "*" ["*", "="], arithmetic 19 20 "@" ["="],
  arithmetic 19 20 "//" ["="], arithmetic 19 20 "/" ["/", "="], arithmetic 19 20 "%" ["="],
  arithmetic 18 19 "+" ["="], arithmetic 18 19 "-" ["=", ">"],
  arithmetic 17 18 "<<" ["="], arithmetic 17 18 ">>" ["="],
  arithmetic 16 17 "^" ["="], arithmetic 15 16 "&" ["="], arithmetic 14 15 "|" ["="]]

/-- The operators that compare. -/
def comparisons : Form := .alt [
  "<=", "<>", .op "<" ["<"], "==", "!=", ">=", .op ">" [">"], "in",
  .retitle "not in" false (.node "not in" (.seq ["not", "in"])),
  .retitle "is not" false (.node "is not" (.seq ["is", "not"])), "is"]

/-- An operator that joins truth values. -/
def joined (power : Nat) (text : String) : Tail :=
  ⟨power, "boolean_operator", some "left", some "expression", [],
    .seq [.field "operator" (.lit text), .field "right" (.ref "expression" (power + 1))]⟩

/-- What may follow an expression. -/
def operators : List Tail := tightOperators ++ [
  ⟨13, "comparison_operator", none, some "primary_expression", tightKinds,
    many1 (.seq [.field "operators" comparisons, tight 14])⟩,
  joined 11 "and", joined 10 "or",
  ⟨2, "conditional_expression", none, some "expression", [],
    .seq ["if", .ref "expression" 2, "else", .ref "expression" 2]⟩,
  ⟨1, "named_expression", some "name", none, ["identifier"],
    .seq [":=", .field "value" (.ref "expression" 1)]⟩,
  ⟨1, "as_pattern", none, some "expression", [],
    .seq ["as", .field "alias" (.node "as_pattern_target" (.ref "expression" 2))]⟩]

/-- The clauses behind the body of a comprehension. -/
def clauses : Form :=
  .seq [use "for_in_clause", .many (.alt [use "for_in_clause", use "if_clause"])]

/-- A comprehension with its brackets. -/
def comprehension (kind : String) (brackets : Form → Form) (body : Form) : Form :=
  .node kind (brackets (.seq [.field "body" body, clauses]))

/-- The members of a list, a set or a tuple. -/
def element : Form := .alt [use "list_splat", use "parenthesized_list_splat", use "yield",
  use "expression"]

/-- The operands that bind tightly. -/
def tightOperands : List Form := [
  use "string_run",
  .leaf "float" float, .leaf "integer" integer,
  wordNode "true" "True", wordNode "false" "False", wordNode "none" "None",
  .node "await" (.seq ["await", tight 20]),
  .node "unary_operator" (.seq [.field "operator" (.alt ["+", .op "-" [">"], "~"]),
    .field "argument" (tight 20)]),
  .node "parenthesized_expression" (parens (.alt [use "yield", use "expression"])),
  .node "tuple" (parens (.opt (.seq [element, .absent (.alt [")", "for", "async"]), ",",
    .opt (commaList element)]))),
  use "generator_expression",
  .node "list" (squares (.opt (commaList element))),
  comprehension "list_comprehension" squares (use "expression"),
  .node "dictionary"
    (braces (.seq [.opt (sepBy1 (.alt [use "dictionary_splat", use "pair"]) ","), .opt ","])),
  .node "set" (braces (commaList element)),
  comprehension "dictionary_comprehension" braces (use "pair"),
  comprehension "set_comprehension" braces (use "expression"),
  .leaf "ellipsis" (Scan.text "..."),
  .node "list_splat" (.seq [star, tight 22]),
  identifier]

/-- The operands of an expression. -/
def operands : List Form := [
  .node "not_operator" (.seq ["not", .field "argument" (.ref "expression" 12)]),
  .node "lambda" (.seq ["lambda", .opt (.field "parameters" (use "lambda_parameters")), ":",
    .field "body" (.ref "expression" 1)])]

/-- What stands behind a star. -/
def splatName : Form := use "place"

/-- A value behind an equals sign. -/
def defaultValue : Form := .seq [.op "=" ["="], .field "value" (use "expression")]

/-- The note of a type. -/
def typeNote : Form := .seq [.op ":" ["="], .field "type" (use "type")]

/-- A type with arguments. -/
def genericType : Form := .node "generic_type" (.seq [identifier, use "type_parameter"])

/-- A type with arguments that another type is built from. -/
def genericNote : Form := .node "type" genericType

/-- The parameters that note no types. -/
def plainParameters : List Form := [
  .node "default_parameter" (.seq [.field "name" (.alt [identifier, use "tuple_pattern"]),
    defaultValue]),
  .node "list_splat_pattern" (.seq [star, splatName]),
  .node "keyword_separator" star,
  .node "dictionary_splat_pattern" (.seq ["**", splatName]),
  .node "positional_separator" "/",
  use "tuple_pattern", identifier]

/-- The named forms of expressions. -/
def expressionDefinitions : List Definition := [
  .ofFamily "expression" (.alt (operands ++ tightOperands)) operators,
  .ofFamily "primary_expression" (.alt tightOperands) tightOperators,
  ⟨"expressions", none, use "expression", [⟨1, "expression_list", none, none, [],
    .seq [",", .opt (commaList (use "expression"))]⟩]⟩,
  ⟨"string_run", none, use "string", [⟨1, "concatenated_string", none, none, ["string"],
    many1 (use "string")⟩]⟩,
  .plain "string" string,
  .ofKind "interpolation" (braces (.seq [
    .field "expression" (.alt [use "yield", use "expressions"]),
    .opt "=",
    .opt (.field "type_conversion" (.leaf "type_conversion"
      (Scan.both (Scan.text "!") (Scan.one (fun c => 'a' ≤ c && c ≤ 'z'))))),
    .opt (.field "format_specifier" (use "format_specifier"))])),
  .ofKind "format_specifier" (.seq [":", .many (.glued (.alt [
    .quiet (Scan.run (fun c => c != '\x7b' && c != '\x7d' && c != '\n')),
    .retitle "format_expression" true (use "interpolation")]))]),
  .ofKind "yield" (.seq ["yield", .opt (.alt [.seq ["from", use "expression"],
    use "expressions"])]),
  .plain "generator_expression"
    (comprehension "generator_expression" parens (use "expression")),
  .ofKind "pair" (.seq [.field "key" (use "expression"), ":", .field "value" (use "expression")]),
  .ofKind "list_splat" (.seq [star, use "expression"]),
  .ofKind "dictionary_splat" (.seq ["**", use "expression"]),
  .plain "parenthesized_list_splat" (.node "parenthesized_expression"
    (parens (.alt [use "parenthesized_list_splat", use "list_splat"]))),
  .ofKind "for_in_clause" (.seq [.opt "async", "for", .field "left" (use "left_side"), "in",
    .field "right" (commaList (.ref "expression" 10))]),
  .ofKind "if_clause" (.seq ["if", use "expression"]),
  ⟨"subscript_item", none, .alt [.node "slice" (.seq [":", .opt (use "expression"),
      .opt (.seq [":", .opt (use "expression")])]), use "expression"],
    [⟨1, "slice", none, none, "named_expression" :: "conditional_expression" :: "boolean_operator"
        :: "not_operator" :: "comparison_operator" :: "lambda" :: tightKinds,
      .seq [":", .opt (use "expression"), .opt (.seq [":", .opt (use "expression")])]⟩]⟩,
  .ofKind "argument_list" (parens (.seq [.opt (sepBy1 (.alt [use "keyword_argument",
    use "dictionary_splat", use "list_splat", use "parenthesized_list_splat", use "expression"]) ","),
    .opt ","])),
  .ofKind "keyword_argument" (.seq [.field "name" identifier, defaultValue]),
  .ofFamily "pattern" (.alt [use "list_splat_pattern", use "place", use "tuple_pattern",
    use "list_pattern"]) [],
  ⟨"left_side", none, use "pattern", [⟨1, "pattern_list", none, none, [],
    .seq [",", .opt (commaList (use "pattern"))]⟩]⟩,
  ⟨"place", none, .alt [identifier, .seq [
      .alt [.node "parenthesized_expression" (parens (use "expression")), use "string"],
      .ahead (.alt [".", "["])]], [
    ⟨22, "attribute", some "object", some "primary_expression", [], attributeBody⟩,
    ⟨22, "subscript", some "value", some "primary_expression", [], subscriptBody⟩,
    ⟨22, "call", some "function", some "primary_expression", [],
      .seq [callBody, .ahead (.alt [".", "[", "("])]⟩]⟩,
  .ofKind "list_splat_pattern" (.seq [star, splatName]),
  .ofKind "tuple_pattern" (parens (.opt (commaList (use "pattern")))),
  .ofKind "list_pattern" (squares (.opt (commaList (use "pattern")))),
  .ofKind "parameters" (parens (.opt (commaList (use "parameter")))),
  .ofKind "lambda_parameters" (commaList (use "plain_parameter")),
  ⟨"plain_parameter", some "parameter", .alt plainParameters, []⟩,
  .ofFamily "parameter" (.alt ([
    .node "typed_default_parameter" (.seq [.field "name" identifier, typeNote, defaultValue]),
    .node "typed_parameter" (.seq [.alt [identifier,
      .node "list_splat_pattern" (.seq [star, splatName]),
      .node "dictionary_splat_pattern" (.seq ["**", splatName])], typeNote])]
    ++ plainParameters)) [],
  .ofKind "type_parameter" (squares (commaList (use "type"))),
  .ofKind "type" (.alt [
    .node "union_type" (.seq [genericNote, "|", use "type"]),
    .node "member_type" (.seq [genericNote, ".", identifier]),
    .node "constrained_type" (.seq [.check (fun cursor => cursor.depth != 0), genericNote, ":",
      use "type"]),
    .node "splat_type" (.seq [.alt ["**", "*"], identifier]),
    .seq [genericType, .absent (.alt ["(", "[", ".", "if", "and", "or"])],
    use "expression"])]

end PythonGrammar

end Dimming
