import Dimming.Grammar.ScriptExpression

/-!
# The types of the script languages

Type expressions, their parameters and arguments, and the signatures that object types and interfaces
consist of.

The forms follow tree-sitter-typescript 0.23 for types. What is left to its recovery from errors is left
out.
-/

set_option autoImplicit false

namespace Dimming

namespace ScriptGrammar

open Form

/-- A name that stands for a type. -/
def typeName : Form := plainName "type_identifier"

/-- The words for types that are built in. -/
def builtInTypes : List Form :=
  (["any", "number", "boolean", "string", "symbol"].map Form.lit) ++ [
    .seq [.retitle "unique symbol" false "unique", .retitle "unique symbol" false "symbol"]]
  ++ (["void", "unknown", "never", "object"].map Form.lit)

/-- A list of forms in angle brackets. -/
def angled (part : Form) : Form := .nest (.seq ["<", sepBy1 part ",", .opt ",", ">"])

/-- The parameters of a function type. -/
def signatureParameters : Form := .seq [
  .opt (.field "type_parameters" (use "type_parameters")),
  .field "parameters" (use "formal_parameters")]

/-- The values that are types. -/
def literalTypes : Form := .node "literal_type" (.alt [
  .node "unary_expression" (.seq [.field "operator" (.alt ["-", "+"]),
    .field "argument" (.leaf "number" number)]),
  .leaf "number" number, string, wordNode "true", wordNode "false", wordNode "null",
  wordNode "undefined"])

/-- What `typeof` can be asked of. -/
def queryTails : List Tail := [
  ⟨2, "member_expression", some "object", none, [], .seq [.alt [".", "?."],
    .field "property" (.alt [privateName, anyName "property_identifier"])]⟩,
  ⟨2, "subscript_expression", some "object", none, [], .seq [.opt "?.", "[",
    .field "index" (.alt [use "predefined_type", string, .leaf "number" number]), "]"]⟩,
  ⟨2, "call_expression", some "function", none, [], .field "arguments" (use "arguments")⟩,
  ⟨1, "instantiation_expression", some "function", none, [],
    .field "type_arguments" (use "type_arguments")⟩]

/-- The types that no operator follows from. -/
def typeForms : Form := .alt [
  .node "function_type" (.seq [signatureParameters, "=>",
    .field "return_type" (.alt [use "asserts", use "type_predicate", use "type"])]),
  .node "constructor_type" (.seq [.opt "abstract", "new", signatureParameters, "=>",
    .field "type" (use "type")]),
  .node "readonly_type" (.seq [marker "readonly", use "type"]),
  .node "infer_type" (.seq ["infer", typeName, .opt (.seq ["extends", .ref "type" 3, .absent "?"])]),
  .node "parenthesized_type" (parens (use "type")),
  .node "union_type" (.seq ["|", .ref "type" 4]),
  .node "intersection_type" (.seq ["&", .ref "type" 5]),
  .node "flow_maybe_type" (.seq ["?", .ref "type" 9]),
  use "type_query",
  .node "index_type_query" (.seq ["keyof", .ref "primary_type" 9]),
  literalTypes,
  .node "template_literal_type" (.seq ["\x60", .many (.glued (.alt [
    .leaf "string_fragment" templateText,
    .node "template_type" (.seq ["$\x7b", use "type", "\x7d"])])), .glued "\x60"]),
  use "object_type",
  .node "tuple_type" (squares (.seq [commas (use "tuple_member"), .opt ","])),
  .retitle "this_type" true (wordNode "this"),
  .node "existential_type" "*",
  .seq [use "predefined_type", .absent "."],
  "const",
  use "nested_type_identifier",
  use "annotated_call",
  typeName]

/-- What may follow a type. -/
def typeTails : List Tail := [
  ⟨10, "generic_type", some "name", none, ["type_identifier", "nested_type_identifier"],
    .field "type_arguments" (use "type_arguments")⟩,
  ⟨9, "array_type", none, some "primary_type", [], .seq [.check sameLine, "[", "]"]⟩,
  ⟨9, "lookup_type", none, some "primary_type", [],
    .seq [.check sameLine, "[", use "type", "]"]⟩,
  ⟨4, "intersection_type", none, some "type", [], .seq ["&", .ref "type" 5]⟩,
  ⟨3, "union_type", none, some "type", [], .seq ["|", .ref "type" 4]⟩,
  ⟨2, "conditional_type", some "left", some "type", [], .seq ["extends",
    .field "right" (.ref "type" 3), "?", .field "consequence" (.ref "type" 1), ":",
    .field "alternative" (.ref "type" 2)]⟩]

/-- The words that may stand in front of a signature. -/
def signatureMarks : Form := .seq [.opt (use "accessibility_modifier"), .opt (marker "static"),
  .opt (use "override_modifier"), .opt (marker "readonly")]

/-- The members of an object type. -/
def signatures : Form := .alt [use "export_statement", use "construct_signature",
  use "call_signature", use "index_signature", use "method_signature", use "property_signature"]

/-- What stands between the members of an object type. -/
def signatureRow : Form := .seq [.opt (.alt [",", ";"]),
  .opt (.seq [signatures, .many (.seq [.alt [",", semicolon], signatures]),
    .opt (.alt [",", semicolon])])]

/-- A member's name with a mark that it may be missing. -/
def memberName (dialect : Dialect) : Form :=
  .seq [.field "name" (propertyName dialect), .opt "?"]

/-- The named forms of types. -/
def typeDefinitions (dialect : Dialect) : List Definition := [
  .ofFamily "type" (typeForms) typeTails,
  ⟨"primary_type", some "primary_type", typeForms, typeTails⟩,
  .ofKind "predefined_type" (.alt builtInTypes),
  .ofKind "type_annotation" (.seq [":", use "type"]),
  .ofKind "asserts_annotation" (.seq [":", use "asserts"]),
  .ofKind "type_predicate_annotation" (.seq [":", use "type_predicate"]),
  .ofKind "asserts" (.seq ["asserts", .alt [use "type_predicate", plainName "identifier",
    wordNode "this"]]),
  .ofKind "type_predicate" (.seq [.field "name" (.alt [
      .leaf "identifier" (wordExcept (reserved ++ ["any", "number", "boolean", "string", "symbol",
        "void", "unknown", "never", "object"])),
      wordNode "this", .retitle "identifier" true (use "predefined_type")]),
    .check sameLine, "is", .field "type" (use "type")]),
  ⟨"module_path", none, .seq [plainName "identifier", .ahead "."], [
    ⟨1, "nested_identifier", some "object", none, [],
      .seq [".", .field "property" (anyName "property_identifier"), .ahead "."]⟩]⟩,
  ⟨"module_name", none, plainName "identifier", [
    ⟨1, "nested_identifier", some "object", none, [],
      .seq [".", .field "property" (anyName "property_identifier")]⟩]⟩,
  .ofKind "nested_type_identifier" (.seq [.field "module" (use "module_path"), ".",
    .field "name" typeName]),
  ⟨"annotated_call", none, .seq [wordNode "import", .ahead "("], [
    ⟨1, "member_expression", some "object", none, [],
      .seq [".", .field "property" (anyName "property_identifier")]⟩,
    ⟨1, "call_expression", some "function", none, [], .field "arguments" (use "arguments")⟩]⟩,
  .ofKind "type_query" (.seq ["typeof", use "query_operand"]),
  ⟨"query_operand", none, .alt [wordNode "import", wordNode "this", plainName "identifier"],
    queryTails⟩,
  .plain "tuple_member" (.alt [
    .node "optional_parameter" (.seq [.field "name" (plainName "identifier"), "?",
      .field "type" (use "type_annotation")]),
    .node "required_parameter" (.seq [.field "name" (.alt [use "rest_pattern",
      plainName "identifier"]), .field "type" (use "type_annotation")]),
    .node "rest_type" (.seq ["...", use "type"]),
    .node "optional_type" (.seq [use "type", "?"]),
    use "type"]),
  .ofKind "type_arguments" (angled (use "type")),
  .ofKind "type_parameters" (angled (use "type_parameter")),
  .ofKind "type_parameter" (.seq [.opt "const", .field "name" typeName,
    .opt (.field "constraint" (use "constraint")), .opt (.field "value" (use "default_type"))]),
  .ofKind "constraint" (.seq [.alt ["extends", ":"], use "type"]),
  .ofKind "default_type" (.seq ["=", use "type"]),
  .ofKind "object_type" (.alt [braces signatureRow,
    .seq ["\x7b|", signatureRow, "|\x7d"]]),
  .ofKind "call_signature" (callSignature dialect),
  .ofKind "construct_signature" (.seq [.opt "abstract", "new", signatureParameters,
    annotation dialect]),
  .ofKind "property_signature" (.seq [signatureMarks, memberName dialect, annotation dialect]),
  .ofKind "method_signature" (.seq [signatureMarks, .opt (marker "async"),
    .opt (.alt [marker "get", marker "set", "*"]), memberName dialect, callSignature dialect]),
  .ofKind "abstract_method_signature" (.seq [.opt (use "accessibility_modifier"),
    marker "abstract", .opt (use "override_modifier"),
    .opt (.alt [marker "get", marker "set", "*"]), memberName dialect, callSignature dialect]),
  .ofKind "index_signature" (.seq [
    .opt (.seq [.opt (.field "sign" (.alt ["-", "+"])), "readonly"]),
    squares (.alt [use "mapped_type_clause",
      .seq [.field "name" (name dialect "identifier"), ":", .field "index_type" (use "type")]]),
    .field "type" (.alt [use "type_annotation",
      .node "omitting_type_annotation" (.seq ["-?:", use "type"]),
      .node "adding_type_annotation" (.seq ["+?:", use "type"]),
      .node "opting_type_annotation" (.seq ["?:", use "type"])])]),
  .ofKind "mapped_type_clause" (.seq [.field "name" typeName, "in", .field "type" (use "type"),
    .opt (.seq ["as", .field "alias" (use "type")])]),
  .ofKind "accessibility_modifier"
    (.alt [marker "public", marker "private", marker "protected"]),
  .ofKind "override_modifier" (marker "override"),
  .ofKind "public_field_definition" (.seq [decorators,
    .alt [.seq [marker "declare", .opt (use "accessibility_modifier")],
      .seq [.opt (use "accessibility_modifier"), .opt (marker "declare")]],
    .opt (marker "static"), .opt (use "override_modifier"), .opt (marker "abstract"),
    .opt (marker "readonly"), .opt (marker "abstract"), .opt (marker "accessor"),
    .field "name" (propertyName dialect), .opt (.alt ["?", "!"]), annotation dialect,
    .opt initializer]),
  .ofKind "class_heritage" (.alt [
    .seq [use "extends_clause", .opt (use "implements_clause")], use "implements_clause"]),
  .ofKind "extends_clause" (.seq ["extends", sepBy1 (.seq [.field "value" (use "heritage"),
    .opt (.field "type_arguments" (use "type_arguments"))]) ","]),
  ⟨"heritage", some "expression", operands dialect, (selections dialect ++ calls dialect)⟩,
  .ofKind "implements_clause" (.seq ["implements", sepBy1 (use "type") ","])]

end ScriptGrammar

end Dimming
