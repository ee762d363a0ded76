import Dimming.Grammar.ScriptToken

/-!
# The expressions of the script languages

Expressions, patterns, functions, objects and the bodies of classes. Operators bind as in the table of
`operators`; calls, templates and members bind most tightly. Where a dialect is typed, names can note
their types and calls can name type arguments.

The forms follow tree-sitter-javascript 0.23 and tree-sitter-typescript 0.23 for expressions. What is
left to their recovery from errors is left out.
-/

set_option autoImplicit false

namespace Dimming

namespace ScriptGrammar

open Form

/-- A form of the typed dialects; nothing elsewhere. -/
def ifTyped (dialect : Dialect) (form : Form) : Form :=
  if dialect.typed then form else nothing

/-- A possible part of the typed dialects. -/
def optTyped (dialect : Dialect) (form : Form) : Form :=
  ifTyped dialect (.opt form)

/-- A choice of the typed dialects; none elsewhere. -/
def typedChoice (dialect : Dialect) (form : Form) : Form :=
  if dialect.typed then form else .alt []

/-- Members of a list that only the typed dialects have. -/
def onlyTyped {α : Type} (dialect : Dialect) (members : List α) : List α :=
  if dialect.typed then members else []

/-- The end of a statement. -/
def semicolon : Form := .alt [";", .check endsHere]

/-- Values separated by commas; some may be left out. -/
def looseCommas (part : Form) : Form := .seq [.opt part, .many (.seq [",", .opt part])]

/-- An equals sign. -/
def equals : Form := .op "=" ["=", ">"]

/-- A value after an equals sign. -/
def initializer : Form := .seq [equals, .field "value" (use "expression")]

/-- The note of a type. -/
def annotation (dialect : Dialect) : Form :=
  optTyped dialect (.field "type" (use "type_annotation"))

/-- A word in front of a name; alone it would be the name. -/
def marker (text : String) : Form :=
  .seq [.lit text, .absent (.alt ["(", "=", ";", ":", ",", "\x7d", "?", "!", "<", ")"])]

/-- Type arguments of a call. -/
def typeArguments (dialect : Dialect) : Form :=
  optTyped dialect (.field "type_arguments" (use "type_arguments"))

/-- The parameters of a function, with what is noted of its types. -/
def callSignature (dialect : Dialect) : Form := .seq [
  optTyped dialect (.field "type_parameters" (use "type_parameters")),
  .field "parameters" (use "formal_parameters"),
  optTyped dialect (.field "return_type" (.alt [
    use "asserts_annotation", use "type_predicate_annotation", use "type_annotation"]))]

/-- The kinds of operands that bind as tightly as a name. -/
def primaryKinds (dialect : Dialect) : List String := [
  "subscript_expression", "member_expression", "parenthesized_expression", "undefined", "identifier",
  "this", "super", "number", "string", "template_string", "regex", "true", "false", "null", "object",
  "array", "function_expression", "arrow_function", "generator_function", "class", "meta_property",
  "call_expression"] ++ onlyTyped dialect ["non_null_expression"]

/-- The mark of a chain that ends where a value is missing. -/
def chainMark (dialect : Dialect) : Form :=
  if dialect.typed then .node "optional_chain" "?." else .leaf "optional_chain" (Scan.text "?.")

/-- A chain mark that is no condition with a decimal number behind. -/
def optionalChain (dialect : Dialect) : Form :=
  .seq [.absent (.leaf "?." (Scan.both (Scan.text "?.") (Scan.run Scan.isDigit))),
    .field "optional_chain" (chainMark dialect)]

/-- What selects a member behind the operand. -/
def memberBody (dialect : Dialect) : Form := .seq [
  .alt [".", optionalChain dialect],
  .field "property" (.alt [privateName, anyName "property_identifier"])]

/-- What selects an element behind the operand. -/
def subscriptBody (dialect : Dialect) : Form := .seq [
  .opt (optionalChain dialect), "[", .field "index" (use "expressions"), "]"]

/-- Selections of members and elements. -/
def selections (dialect : Dialect) : List Tail :=
  let tight (kind : String) (body : Form) : List Tail := [
    ⟨18, kind, some "object", some "primary_expression", primaryKinds dialect, body⟩,
    ⟨18, kind, some "object", some "expression",
      ["new_expression", "jsx_element", "jsx_self_closing_element"], body⟩]
  tight "member_expression" (memberBody dialect)
    ++ tight "subscript_expression" (subscriptBody dialect)
    ++ onlyTyped dialect [⟨18, "non_null_expression", none, some "expression", [],
      .seq [.check sameLine, .op "!" ["="]]⟩]

/-- Calls. -/
def calls (dialect : Dialect) : List Tail := [
  ⟨18, "call_expression", some "function", some "primary_expression", primaryKinds dialect,
    .seq [if dialect.typed then "?." else optionalChain dialect, typeArguments dialect,
      .field "arguments" (use "arguments")]⟩,
  ⟨17, "call_expression", some "function", none, ["import"],
    .seq [typeArguments dialect, .field "arguments" (use "arguments")]⟩,
  ⟨17, "call_expression", some "function", some "expression", [],
    .seq [typeArguments dialect, .field "arguments" (use "arguments")]⟩,
  ⟨18, "call_expression", some "function", some "primary_expression",
    "new_expression" :: primaryKinds dialect, .field "arguments" (use "template_string")⟩]

/-- An operator between two operands, with the tokens that it must not open. -/
def binary (power : Nat) (text : String) (others : List String) : Tail :=
  ⟨power, "binary_expression", some "left", some "expression", [],
    .seq [.field "operator" (.op text others), .field "right" (.ref "expression" (power + 1))]⟩

/-- The operators between two operands. -/
def binaries : List Tail := [
  ⟨13, "binary_expression", some "left", some "expression", [],
    .seq [.field "operator" (.op "**" ["="]), .field "right" (.ref "expression" 13)]⟩,
  binary 12 "*" ["*", "="], binary 12 "/" ["="], binary 12 "%" ["="],
  binary 11 "+" ["+", "="], binary 11 "-" ["-", "="],
  binary 10 "<<" ["="], binary 10 ">>>" ["="], binary 10 ">>" [">", "="],
  binary 9 "<=" [], binary 9 "<" ["<", "="], binary 9 ">=" [], binary 9 ">" [">", "="],
  binary 9 "instanceof" [],
  ⟨9, "binary_expression", some "left", some "expression", [],
    .seq [.field "operator" "in", .field "right" (.ref "expression" 10)]⟩,
  binary 8 "===" [], binary 8 "==" ["="], binary 8 "!==" [], binary 8 "!=" ["="],
  binary 7 "&" ["&", "="], binary 6 "^" ["="], binary 5 "|" ["|", "="],
  binary 4 "&&" ["="], binary 3 "||" ["="], binary 2 "??" ["="]]

/-- The assignments that also compute. -/
def compounds : Form := .alt [
  "+=", "-=", "*=", "/=", "%=", "^=", "&=", "|=", ">>=", ">>>=", "<<=", "**=", "&&=", "||=", "??="]

/-- The kinds that can be assigned to without being taken apart. -/
def targets : List String := ["identifier", "member_expression", "subscript_expression",
  "parenthesized_expression", "undefined", "non_null_expression"]

/-- Notes of types behind an operand. -/
def typeNotes (dialect : Dialect) : List Tail := onlyTyped dialect [
  ⟨17, "instantiation_expression", none, some "expression", [],
    .seq [.field "type_arguments" (use "type_arguments"),
      .ahead (.alt [";", ")", "]", "\x7d", ",", ":", "=", "?", "|", "&", .check endsHere])]⟩,
  ⟨2, "as_expression", none, some "expression", [],
    .seq [.check sameLine, "as", .alt [.seq ["const", .absent "."], use "type"]]⟩,
  ⟨2, "satisfies_expression", none, some "expression", [],
    .seq [.check sameLine, "satisfies", use "type"]⟩]

/-- What may follow an operand. -/
def operators (dialect : Dialect) : List Tail :=
  selections dialect ++ calls dialect ++ [
    ⟨15, "update_expression", some "argument", some "expression", targets,
      .seq [.check sameLine, .field "operator" (.alt ["++", "--"])]⟩]
    ++ typeNotes dialect ++ binaries ++ [
    ⟨2, "ternary_expression", some "condition", some "expression", [], .seq [.op "?" ["?"], .alt [
      .seq [.field "consequence" (use "expression"), ":"],
      .seq [.bare (.field "consequence" (use "expression")), ":"]],
      .field "alternative" (.ref "expression" 2)]⟩,
    ⟨1, "assignment_expression", some "left", none, targets,
      .seq [equals, .field "right" (.ref "expression" 1)]⟩,
    ⟨1, "augmented_assignment_expression", some "left", none, targets,
      .seq [.field "operator" compounds, .field "right" (.ref "expression" 1)]⟩]

/-- Something that takes a value apart. -/
def destructuring : Form := .alt [use "object_pattern", use "array_pattern"]

/-- The body of a function that is written with an arrow. -/
def arrowBody : Form :=
  .seq ["=>", .field "body" (.alt [use "statement_block", use "expression"])]

/-- The parameters of a function that is written with an arrow. Behind a question mark, a colon that
may belong to a condition notes no type. -/
def arrowParameters (dialect : Dialect) : Form := .alt [
  .field "parameter" (name dialect "identifier"),
  if dialect.typed then .alt [
    .seq [.check (fun cursor => !cursor.bare), callSignature dialect],
    .seq [.opt (.field "type_parameters" (use "type_parameters")),
      .field "parameters" (use "formal_parameters")]]
  else callSignature dialect]

/-- A function whose name may be left out. -/
def functionForm (kind mark : String) (dialect : Dialect) (title : Form) : Form :=
  .node kind (.seq [.opt "async", "function", if mark.isEmpty then nothing else .lit mark,
    title, callSignature dialect, .field "body" (use "statement_block")])

/-- Decorators, if any. -/
def decorators : Form := .many (.field "decorator" (use "decorator"))

/-- What stands between the name of a class and its end. -/
def classRest (dialect : Dialect) : Form := .seq [
  optTyped dialect (.field "type_parameters" (use "type_parameters")),
  .opt (use "class_heritage"), .field "body" (use "class_body")]

/-- The name of a class. -/
def className (dialect : Dialect) : Form :=
  .field "name" (plainName (if dialect.typed then "type_identifier" else "identifier"))

/-- The operands of operators. -/
def operands (dialect : Dialect) : Form := .alt ([
  use "arrow_function",
  functionForm "generator_function" "*" dialect (.opt (.field "name" (plainName "identifier"))),
  functionForm "function_expression" "" dialect (.opt (.field "name" (plainName "identifier"))),
  .node "class" (.seq [decorators, "class", .opt (.seq [.absent "implements", className dialect]),
    classRest dialect]),
  .node "assignment_expression" (.seq [.field "left" destructuring, equals,
    .field "right" (.ref "expression" 1)]),
  typedChoice dialect (.node "assignment_expression" (.seq [.lit "using", .check sameLine,
    .field "left" (.alt [destructuring, use "place"]), equals,
    .field "right" (.ref "expression" 1)])),
  .node "meta_property" (.alt [.seq ["new", ".", "target"], .seq ["import", ".", "meta"]]),
  use "new_expression",
  .node "await_expression" (.seq ["await", .ref "expression" 14]),
  .node "unary_expression" (.seq [
    .field "operator" (.alt ["!", "~", .op "-" ["-"], .op "+" ["+"], "typeof", "void", "delete"]),
    .field "argument" (.ref "expression" 14)]),
  .node "update_expression" (.seq [.field "operator" (.alt ["++", "--"]),
    .field "argument" (.ref "expression" 15)]),
  .node "yield_expression" (.alt [.seq ["yield", "*", .ref "expression" 1],
    .seq ["yield", .check sameLine, .ref "expression" 1], "yield"])]
  ++ (if dialect.markup then [use "jsx_element", use "jsx_self_closing_element"] else [])
  ++ onlyTyped dialect (if dialect.markup then [] else [
    .node "type_assertion" (.seq [use "type_arguments", .ref "expression" 14])])
  ++ [.leaf "number" number, string, use "template_string", regex,
    wordNode "this", wordNode "super", wordNode "true", wordNode "false", wordNode "null",
    wordNode "undefined", .seq [wordNode "import", .ahead (.alt ["(", "<"])],
    use "object", use "array", use "parenthesized_expression",
    .seq [privateName, .ahead "in"],
    name dialect "identifier"])

/-- The name of a property. -/
def propertyName (dialect : Dialect) : Form := .alt [
  name dialect "property_identifier", anyName "property_identifier", privateName, string,
  .leaf "number" number, use "computed_property_name"]

/-- The words that may stand in front of a method. -/
def methodMarks (dialect : Dialect) : Form := .seq [
  optTyped dialect (use "accessibility_modifier"),
  .opt (marker "static"),
  optTyped dialect (use "override_modifier"),
  optTyped dialect (marker "readonly"),
  .opt (marker "async"),
  .opt (.alt [marker "get", marker "set", "*"])]

/-- A method with its body. -/
def method (dialect : Dialect) : Form := .seq [
  if dialect.typed then nothing else decorators,
  .alt [.seq [methodMarks dialect, .field "name" (propertyName dialect)],
    .seq [.retitle "static get" false (.leaf "static get" (Scan.text "static get\n")),
      .field "name" (propertyName dialect)]],
  optTyped dialect "?", callSignature dialect, .field "body" (use "statement_block")]

/-- The members of a class. -/
def classMember (dialect : Dialect) : Form :=
  if dialect.typed then .alt [
    .seq [decorators, use "method_definition", .opt semicolon],
    use "class_static_block",
    .seq [.alt [use "abstract_method_signature", use "index_signature", use "method_signature",
      use "public_field_definition"], .alt [semicolon, ","]],
    ";"]
  else .alt [
    .seq [.field "member" (use "method_definition"), .opt ";"],
    .field "member" (use "class_static_block"),
    .seq [.field "member" (use "field_definition"), semicolon],
    ";"]

/-- What a parameter may be. -/
def parameterForms (dialect : Dialect) : List Definition :=
  let title : Form := .seq [decorators, .opt (use "accessibility_modifier"),
    .opt (use "override_modifier"), .opt (marker "readonly"),
    .field "pattern" (.alt [use "pattern", wordNode "this"])]
  if dialect.typed then [
    .plain "formal_parameter" (.alt [use "optional_parameter", use "required_parameter"]),
    .ofKind "required_parameter" (.seq [title, annotation dialect, .opt initializer]),
    .ofKind "optional_parameter" (.seq [title, "?", annotation dialect, .opt initializer])]
  else [.plain "formal_parameter" (use "pattern_with_default")]

/-- The named forms of expressions. -/
def expressionDefinitions (dialect : Dialect) : List Definition := [
  .ofFamily "expression" (operands dialect) (operators dialect),
  ⟨"primary_expression", some "primary_expression", operands dialect, operators dialect⟩,
  ⟨"expressions", none, use "expression", [⟨1, "sequence_expression", none, none, [],
    .seq [",", use "expression", .many (.seq [",", use "expression"])]⟩]⟩,
  .ofKind "new_expression" (.seq ["new",
    .field "constructor" (.alt [use "new_expression", .ref "primary_expression" 18]),
    typeArguments dialect, .opt (.field "arguments" (use "arguments"))]),
  .ofKind "arrow_function" (.alt [
    .seq ["async", .check sameLine, arrowParameters dialect, arrowBody],
    .seq [arrowParameters dialect, arrowBody]]),
  .ofKind "arguments" (parens (looseCommas (.alt [use "spread_element", use "expression"]))),
  .ofKind "spread_element" (.seq ["...", use "expression"]),
  .ofKind "parenthesized_expression" (parens (.seq [use "expressions", annotation dialect])),
  .plain "template_string"
    (template "template_string" [.leaf "escape_sequence" escape, use "template_substitution"]),
  .ofKind "template_substitution" (.seq ["$\x7b", use "expressions", "\x7d"]),
  .ofKind "array" (squares (looseCommas (.alt [use "spread_element", use "expression"]))),
  .ofKind "object" (braces (looseCommas (.alt [use "pair", use "method_definition",
    use "spread_element", name dialect "shorthand_property_identifier"]))),
  .ofKind "pair" (.seq [.field "key" (propertyName dialect), ":",
    .field "value" (use "expression")]),
  .ofKind "computed_property_name" (squares (use "expression")),
  .ofKind "object_pattern" (braces (looseCommas (.alt [use "pair_pattern", use "rest_pattern",
    use "object_assignment_pattern", name dialect "shorthand_property_identifier_pattern"]))),
  .ofKind "pair_pattern" (.seq [.field "key" (propertyName dialect), ":",
    .field "value" (use "pattern_with_default")]),
  .ofKind "object_assignment_pattern" (.seq [
    .field "left" (.alt [name dialect "shorthand_property_identifier_pattern", destructuring]),
    equals, .field "right" (use "expression")]),
  .ofKind "array_pattern" (squares (looseCommas (use "pattern_with_default"))),
  .ofFamily "pattern" (.alt [destructuring, use "rest_pattern", use "place"]) [],
  ⟨"pattern_with_default", none, use "pattern", [⟨1, "assignment_pattern", some "left", none, [],
    .seq [equals, .field "right" (use "expression")]⟩]⟩,
  .ofKind "rest_pattern" (.seq ["...", .alt [destructuring, use "place"]]),
  ⟨"place", none, .alt [wordNode "undefined", name dialect "identifier",
    .seq [.alt [wordNode "this", wordNode "super"], .ahead (.alt [".", "[", "?."])]],
    selections dialect⟩,
  .ofKind "formal_parameters" (parens (.seq [commas (use "formal_parameter"), .opt ","])),
  .ofKind "decorator" (.seq ["@", .alt [use "decorator_path", use "decorator_brackets"]]),
  ⟨"decorator_path", none, plainName "identifier", [
    ⟨2, "member_expression", some "object", none, ["identifier", "member_expression"],
      .seq [".", .field "property" (anyName "property_identifier")]⟩,
    ⟨1, "call_expression", some "function", none, ["identifier", "member_expression"],
      .seq [typeArguments dialect, .field "arguments" (use "arguments")]⟩]⟩,
  .plain "decorator_brackets" (.node "parenthesized_expression" (parens (use "decorator_path"))),
  .ofKind "class_body" (braces (.many (classMember dialect))),
  .ofKind "method_definition" (method dialect),
  .ofKind "class_static_block" (.seq ["static", .field "body" (use "statement_block")])]
  ++ (if dialect.typed then [] else [
    .ofKind "class_heritage" (.seq ["extends", use "expression"]),
    .ofKind "field_definition" (.seq [decorators, .opt (marker "static"),
      .field "property" (propertyName dialect), .opt initializer])])
  ++ parameterForms dialect

end ScriptGrammar

end Dimming
