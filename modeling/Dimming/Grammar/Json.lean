import Dimming.Grammar.Scan

/-!
# The grammar of JSON

Values with comments between them. When the text ends with one bracket or quote open, a missing token
closes it; when more are open, what they hold fits nowhere.

The forms follow tree-sitter-json 0.24, with a part of its recovery from errors; a text with several
errors may get another tree.
-/

set_option autoImplicit false

namespace Dimming

namespace JsonGrammar

open Form

/-- Digits with an optional sign. -/
def signedDigits : Scanner :=
  Scan.maybeThen (Scan.text "-") (Scan.run Scan.isDigit)

/-- The digits before the point: a zero, or digits that start with another one. -/
def wholePart : Scanner :=
  Scan.maybeThen (Scan.text "-")
    (Scan.first [Scan.text "0", Scan.run Scan.isDigit])

/-- The exponent; its sign can be a minus only. -/
def exponent : Scanner :=
  Scan.both (Scan.one (fun c => c == 'e' || c == 'E')) signedDigits

/-- The fraction; its digits may be missing. -/
def fraction : Scanner :=
  Scan.andMaybe (Scan.text ".") (Scan.run Scan.isDigit)

/-- A number. -/
def number : Scanner :=
  Scan.andMaybe (Scan.andMaybe wholePart fraction) exponent

/-- A character that stands for itself in a string. -/
def isPlain (c : Char) : Bool := c != '\\' && c != '"' && c != '\n'

/-- A backslash with the character that says what it stands for. -/
def escape : Scanner
  | '\\' :: c :: _ => if "\"\\/bfnrtu".toList.contains c then 2 else 0
  | _ => 0

/-- The opening quote of a string and its content. -/
def openString : Form :=
  .seq ["\"", .many (.glued (.alt [.leaf "string_content" (Scan.run isPlain),
    .leaf "escape_sequence" escape]))]

/-- Text in the middle of a string that cannot stand there, when a quote follows somewhere. -/
def junk : Scanner := fun text =>
  let count := Scan.run (· != '"') text
  if (text.drop count).isEmpty then 0 else count

/-- A word that is a value. -/
def word (text : String) : Form := .leaf text (Scan.text text)

/-- A place before a token that goes on with what is around a string: inside of brackets a token that
separates or closes, outside of them another value. -/
def afterValue : Form :=
  .alt [
    .seq [.check (fun cursor => 1 < cursor.depth), .ahead (.alt [",", ":", "]", "\x7d"])],
    .seq [.check (fun cursor => cursor.depth ≤ 1), .ahead (.alt ["[", "\x7b", .quiet number,
      word "true", word "false", word "null"])]]

/-- A string with its quotes. The closing quote may be missing where the text goes on without it. -/
def string : Form :=
  .node "string" (.seq [openString, .alt [
    .closing "\"",
    .seq [afterValue, .standIn "\""],
    .seq [.astray junk, "\""]]])

/-- The named forms. -/
def definitions : List Definition := [
  .ofFamily "_value" (.alt [use "object", use "array", .leaf "number" number, use "string",
    word "true", word "false", word "null"]) [],
  .ofKind "object" (.seq ["\x7b", .nest (commas (use "pair")), .closing "\x7d"]),
  .ofKind "pair" (.seq [.field "key" (use "string"), ":", .field "value" (use "_value")]),
  .ofKind "array" (.seq ["[", .nest (commas (use "_value")), .closing "]"]),
  .plain "string" string]

/-- A bracket that fits nowhere; `move` counts the open ones. -/
def strayBracket (move : Nat → Nat) (text : String) : Form :=
  .seq [.lit text, .mark (fun cursor => some (0, { cursor with depth := max 1 (move cursor.depth) }))]

/-- A token that fits nowhere. A string that stays open is taken apart. -/
def stray : Form :=
  .alt (["\x7b", "["].map (strayBracket (· + 1)) ++ ["\x7d", "]"].map (strayBracket (· - 1))
    ++ [.lit ",", .lit ":", openString])

end JsonGrammar

/-- The grammar of JSON. -/
def jsonGrammar : Grammar where
  root := "document"
  start := .many (.ref "_value" 0)
  stray := JsonGrammar.stray
  definitions := JsonGrammar.definitions
  families := [("_value", [])]
  extras := [Scan.tokenExtra "comment" (Scan.lineComment "//" (· == '\n')),
    Scan.tokenExtra "comment" Scan.blockComment]
  isWord := fun _ => false
  isBlank := Scan.isAsciiBlank
  indented := false

end Dimming
