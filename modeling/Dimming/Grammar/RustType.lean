import Dimming.Grammar.RustToken

/-!
# The types of Rust

Paths, generic arguments, bounds and the types that are built from them. In a path every segment but
the last is a plain name; the last one is a type name.

The forms follow tree-sitter-rust 0.23 for types. What is left to its recovery from errors is left out.
-/

set_option autoImplicit false

namespace Dimming

namespace RustGrammar

open Form

/-- A name that stands for a type. -/
def typeName : Form := nameAs "type_identifier"

/-- A word that refers to a place of its own. -/
def placeWord (word : String) : Form := .leaf word (anyWord [word])

/-- A built-in type. -/
def primitive : Form := .leaf "primitive_type" (anyWord primitives)

/-- The word that allows changes. -/
def mutable : Form := .leaf "mutable_specifier" (anyWord ["mut"])

/-- A variable of a macro. -/
def metavariable : Form :=
  .leaf "metavariable" (Scan.both (Scan.text "$") (Scan.name isNameStart Scan.isNamePart []))

/-- The first segment of a path. -/
def pathStart : Form :=
  .alt [placeWord "self", placeWord "super", placeWord "crate", metavariable, nameAs "identifier"]

/-- What follows a segment of a path: another segment. -/
def pathTail (last : Form) : Tail :=
  ⟨1, "scoped_identifier", some "path", none, [],
    .seq ["::", .field "name" (.alt [nameAs "identifier", placeWord "super"]), last]⟩

/-- Generic arguments behind a double colon. -/
def turbofish : Form := .seq ["::", .field "type_arguments" (use "type_arguments")]

/-- What follows a path of types. -/
def typePathTails : List Tail := [
  ⟨3, "generic_type", some "type", none, ["type_identifier", "scoped_type_identifier"],
    .field "type_arguments" (use "type_arguments")⟩,
  ⟨3, "scoped_type_identifier", some "path", none, ["generic_type", "bracketed_type"],
    .seq ["::", .field "name" typeName]⟩]

/-- A call of a function type. -/
def functionTail : Tail :=
  ⟨3, "function_type", some "trait", none, ["type_identifier", "scoped_type_identifier"],
    .seq [.field "parameters" (use "parameters"), use "return_type"]⟩

/-- The types other than sums of bounds. -/
def typeForms : Form := .alt [
  .node "abstract_type" (.seq ["impl", .opt (.seq ["for", use "type_parameters"]),
    .field "trait" (use "bound_type")]),
  .node "dynamic_type" (.seq ["dyn", .field "trait"
    (.alt [use "higher_ranked_trait_bound", use "bound_type"])]),
  .node "reference_type" (.seq ["&", .opt (quotedName "lifetime"), .opt mutable,
    .field "type" (.ref "_type" 2)]),
  .node "pointer_type" (.seq ["*", .alt ["const", mutable], .field "type" (.ref "_type" 2)]),
  .node "unit_type" (.nest (.seq ["(", ")"])),
  .node "tuple_type" (parens (.seq [sepBy1 (use "_type") ",", .opt ","])),
  .node "array_type" (squares (.seq [.field "element" (use "_type"),
    .opt (.seq [";", .field "length" (use "_expression")])])),
  .node "never_type" "!",
  .node "removed_trait_bound" (.seq ["?", .ref "_type" 2]),
  .node "function_type" (.seq [.opt (use "for_lifetimes"), .opt (use "function_modifiers"), "fn",
    .field "parameters" (use "parameters"), use "return_type"]),
  .node "function_type" (.seq [use "for_lifetimes",
    .field "trait" (.alt [use "scoped_type_identifier", typeName]),
    .field "parameters" (use "parameters"), use "return_type"]),
  .node "bounded_type" (.seq [quotedName "lifetime", "+", use "_type"]),
  use "macro_invocation",
  use "bracketed_type",
  use "scoped_type_identifier",
  .seq [primitive, .absent "::"],
  typeName,
  metavariable]

/-- The named forms of types. -/
def typeDefinitions : List Definition := [
  .ofFamily "_type" typeForms (typePathTails ++ [functionTail,
    ⟨1, "bounded_type", none, some "_type", [], .seq ["+", .alt [quotedName "lifetime", .ref "_type" 2]]⟩]),
  ⟨"bound_type", none, typeForms, typePathTails ++ [functionTail]⟩,
  ⟨"path_type", none, .alt [use "bracketed_type", use "scoped_type_identifier", typeName],
    typePathTails⟩,
  ⟨"type_path", none, .seq [pathStart, .ahead "::"], [pathTail (.ahead "::")]⟩,
  .ofKind "scoped_type_identifier"
    (.seq [.field "path" (.opt (use "type_path")), "::", .field "name" typeName]),
  .ofKind "bracketed_type" (.nest (.seq ["<", .alt [use "qualified_type", use "_type"], ">"])),
  .ofKind "qualified_type" (.seq [.field "type" (use "_type"), "as", .field "alias" (use "_type")]),
  .ofKind "type_arguments" (.nest (.seq ["<", sepBy1 (.seq [
      .alt [use "type_binding", quotedName "lifetime", .seq [use "_type"], use "_literal",
        use "block"],
      .opt (use "trait_bounds")]) ",", .opt ",", ">"])),
  .ofKind "type_binding" (.seq [.field "name" typeName,
    .opt (.field "type_arguments" (use "type_arguments")), .op "=" ["="],
    .field "type" (use "_type")]),
  .ofKind "for_lifetimes"
    (.nest (.seq ["for", "<", sepBy1 (quotedName "lifetime") ",", .opt ",", ">"])),
  .plain "return_type" (.opt (.seq ["->", .field "return_type" (use "_type")])),
  .ofKind "trait_bounds" (.seq [":", sepBy1 (.alt [quotedName "lifetime",
    use "higher_ranked_trait_bound", use "use_bounds", .ref "_type" 2]) "+"]),
  .ofKind "use_bounds" (.nest (.seq ["use", "<", commas (.alt [quotedName "lifetime", typeName]),
    .opt ",", ">"])),
  .ofKind "higher_ranked_trait_bound" (.seq ["for", .field "type_parameters" (use "type_parameters"),
    .field "type" (.ref "_type" 2)]),
  .ofKind "type_parameters" (.nest (.seq ["<", sepBy1 (.seq [.many (use "attribute_item"),
      .alt [metavariable, use "lifetime_parameter", use "const_parameter", use "type_parameter"]])
    ",", .opt ",", ">"])),
  .ofKind "lifetime_parameter" (.seq [.field "name" (quotedName "lifetime"),
    .opt (.field "bounds" (use "trait_bounds"))]),
  .ofKind "const_parameter" (.seq ["const", .field "name" (nameAs "identifier"), ":",
    .field "type" (use "_type"), .opt (.seq ["=", .field "value" (.alt [use "block",
      use "_literal", use "negative_literal", nameAs "identifier"])])]),
  .ofKind "type_parameter" (.seq [.field "name" typeName,
    .opt (.field "bounds" (use "trait_bounds")),
    .opt (.seq ["=", .field "default_type" (use "_type")])]),
  .ofKind "where_clause" (.seq ["where", .opt (.seq [sepBy1 (use "where_predicate") ",", .opt ","])]),
  .ofKind "where_predicate" (.seq [.field "left" (.alt [quotedName "lifetime",
      use "higher_ranked_trait_bound",
      .node "reference_type" (.seq ["&", .opt (quotedName "lifetime"), .opt mutable,
        .field "type" (.ref "_type" 2)]),
      .node "pointer_type" (.seq ["*", .alt ["const", mutable], .field "type" (.ref "_type" 2)]),
      .node "tuple_type" (parens (.seq [sepBy1 (use "_type") ",", .opt ","])),
      .node "array_type" (squares (.seq [.field "element" (use "_type"),
        .opt (.seq [";", .field "length" (use "_expression")])])),
      .seq [primitive, .absent "::"], use "path_type"]),
    .field "bounds" (use "trait_bounds")])]

end RustGrammar

end Dimming
