import Dimming.Grammar.RustType

/-!
# The patterns of Rust

They are read as tree-sitter-rust 0.23 documents them. What is left to its recovery from errors is left
out.
-/

set_option autoImplicit false

namespace Dimming

namespace RustGrammar

open Form

/-- The ends of a range of patterns. -/
def rangeEnd : Form := .alt [use "_literal_pattern", use "path"]

/-- The operators of ranges of patterns. -/
def rangeOperator : Form := .alt ["..=", "...", ".."]

/-- The patterns other than choices. -/
def patternForms : Form := .alt [
  .node "range_pattern" (.seq [.field "left" (use "_literal_pattern"), .alt [
    .seq [rangeOperator, .field "right" rangeEnd], ".."]]),
  .node "range_pattern" (.seq [.field "left" (use "path"), .alt [
    .seq [rangeOperator, .field "right" rangeEnd], ".."]]),
  .node "range_pattern" (.seq [.alt ["..=", ".."], .field "right" rangeEnd]),
  use "_literal_pattern",
  use "remaining_field_pattern",
  .lit "_",
  .node "ref_pattern" (.seq ["ref", use "_pattern"]),
  .node "mut_pattern" (.seq [mutable, use "_pattern"]),
  .node "reference_pattern" (.seq ["&", .opt mutable, .ref "_pattern" 2]),
  .node "tuple_pattern" (parens (.seq [commas (.alt [use "_pattern", use "closure_expression"]),
    .opt ","])),
  .node "slice_pattern" (squares (.seq [commas (use "_pattern"), .opt ","])),
  .node "or_pattern" (.seq ["|", .ref "_pattern" 2]),
  use "const_block",
  use "macro_invocation",
  .node "captured_pattern" (.seq [nameAs "identifier", "@", .ref "_pattern" 2]),
  .node "tuple_struct_pattern" (.seq [
    .field "type" (.alt [use "turbofish_type", use "scoped_identifier", nameAs "identifier"]),
    parens (.seq [commas (use "_pattern"), .opt ","])]),
  .node "struct_pattern" (.seq [
    .field "type" (.alt [use "scoped_type_identifier", typeName]),
    braces (.seq [commas (.alt [use "field_pattern", use "remaining_field_pattern"]), .opt ","])]),
  .node "generic_pattern" (.seq [
    .field "type" (.alt [use "scoped_identifier", nameAs "identifier"]), turbofish]),
  use "scoped_identifier",
  nameAs "identifier"]

/-- The named forms of patterns. -/
def patternDefinitions : List Definition := [
  .ofFamily "_pattern" patternForms [
    ⟨1, "or_pattern", none, some "_pattern", [], .seq [.op "|" ["|"], .ref "_pattern" 2]⟩],
  .ofFamily "_literal_pattern" (.alt (literals ++ [use "negative_literal"])) [],
  .ofKind "negative_literal"
    (.seq ["-", .alt [.leaf "float_literal" float, .leaf "integer_literal" integer]]),
  .ofKind "remaining_field_pattern" (.op ".." ["."]),
  .ofKind "field_pattern" (.seq [.opt "ref", .opt mutable, .alt [
    .seq [.field "name" (nameAs "field_identifier"), .op ":" [":"],
      .field "pattern" (use "_pattern")],
    .field "name" (nameAs "shorthand_field_identifier")]]),
  .ofKind "match_pattern"
    (.seq [use "_pattern", .opt (.seq ["if", .field "condition" (use "condition")])])]

end RustGrammar

end Dimming
