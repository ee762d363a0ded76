import Dimming.Grammar.ScriptExpression

/-!
# The markup of the script languages

Elements with attributes and children. Text between elements is one token; blanks that hold a line
break and nothing else are no text.

The forms follow tree-sitter-javascript 0.23 for markup. What is left to its recovery from errors is left
out.
-/

set_option autoImplicit false

namespace Dimming

namespace ScriptGrammar

open Form

/-- A letter or digit of plain names. -/
def isPlainWordPart (c : Char) : Bool :=
  ('a' ≤ c && c ≤ 'z') || ('A' ≤ c && c ≤ 'Z') || Scan.isDigit c || c == '_' || c == '$'

/-- A name with a hyphen in it. -/
def hyphenated : Scanner := fun text =>
  match text.head? with
  | none => 0
  | some c =>
    if isPlainWordPart c && !Scan.isDigit c then
      Scan.andMaybe (Scan.both (Scan.run isPlainWordPart) (Scan.text "-"))
        (Scan.run (fun c => isPlainWordPart c || c == '-')) text
    else 0

/-- A name in markup. -/
def markupName (kind : String) : Form := .alt [.leaf kind hyphenated, anyName kind]

/-- A character that is written by its name or number. -/
def characterReference : Scanner :=
  let isLetter (c : Char) : Bool := ('a' ≤ c && c ≤ 'z') || ('A' ≤ c && c ≤ 'Z')
  Scan.longest [
    Scan.both (Scan.text "&") (Scan.both (Scan.run isLetter) (Scan.text ";")),
    Scan.both (Scan.text "&#") (Scan.both (Scan.run Scan.isDigit) (Scan.text ";")),
    Scan.both (Scan.first [Scan.text "&#x", Scan.text "&#X"])
      (Scan.both (Scan.run Scan.isHexDigit) (Scan.text ";"))]

/-- A character reference. -/
def referenceNode : Form := .leaf "html_character_reference" characterReference

/-- The text of a quoted value up to its quote or a character reference. -/
def valueText (quote : Char) : Scanner
  | [] => 0
  | '&' :: rest =>
    match characterReference ('&' :: rest) with
    | 0 => valueText quote rest + 1
    | _ => 0
  | c :: rest => if c == quote then 0 else valueText quote rest + 1

/-- A quoted value of one sort. -/
def quotedValue (quote : Char) : Form :=
  .seq [.lit (String.ofList [quote]),
    .many (.glued (.alt [.leaf "string_fragment" (valueText quote), referenceNode])),
    .glued (.lit (String.ofList [quote]))]

/-- The length of text between elements, and whether it holds more than line breaks with the blanks
behind them. -/
def textSpan : Bool → List Char → Nat × Bool
  | _, [] => (0, false)
  | atBreak, c :: rest =>
    if "<>\x7b\x7d&".toList.contains c then (0, false)
    else
      let atBreak := c == '\n' || (atBreak && isBlank c)
      let (count, seen) := textSpan atBreak rest
      (count + 1, seen || !atBreak)

/-- Text between elements. -/
def markupText : Scanner := fun text =>
  let (count, seen) := textSpan false text
  if seen then count else 0

/-- The name of an element. -/
def elementName (dialect : Dialect) : Form := .alt [
  .seq [.field "name" (use "markup_namespace"), .absent "."],
  .seq [.field "name" (use "markup_path"), typeArguments dialect]]

/-- The named forms of markup. -/
def markupDefinitions (dialect : Dialect) : List Definition := [
  .ofKind "jsx_element" (.seq [
    .field "open_tag" (use "jsx_opening_element"),
    .many (.alt [.glued (.leaf "jsx_text" markupText), referenceNode, use "jsx_element",
      use "jsx_self_closing_element", use "jsx_expression"]),
    .field "close_tag" (use "jsx_closing_element")]),
  .ofKind "jsx_opening_element" (.seq ["<", .opt (use "markup_head"), ">"]),
  .ofKind "jsx_closing_element" (.seq ["</", .opt (.field "name" (.alt [
    use "markup_namespace", use "markup_path"])), ">"]),
  .ofKind "jsx_self_closing_element" (.seq ["<", use "markup_head", "/>"]),
  .plain "markup_head" (.seq [elementName dialect,
    .many (.field "attribute" (.alt [use "jsx_attribute", use "jsx_expression"]))]),
  .plain "markup_namespace" (.node "jsx_namespace_name"
    (.seq [markupName "identifier", ":", markupName "identifier"])),
  ⟨"markup_path", none, markupName "identifier", [
    ⟨1, "member_expression", some "object", none, [],
      .seq [".", .field "property" (anyName "property_identifier")]⟩]⟩,
  .ofKind "jsx_attribute" (.seq [
    .alt [use "markup_namespace", markupName "property_identifier"],
    .opt (.seq ["=", .alt [.node "string" (.alt [quotedValue '"', quotedValue '\x27']),
      use "jsx_expression", use "jsx_element", use "jsx_self_closing_element"]])]),
  .ofKind "jsx_expression" (braces (.opt (.alt [use "spread_element", use "expressions"])))]

end ScriptGrammar

end Dimming
