import Dimming.Grammar.Scan

/-!
# The tokens and lines of Python

Names, numbers and strings, and the marks that line breaks and indentation stand for: the end of a
logical line, the start of a block and its end. Comments after a block belong to it as long as they are
indented like it.

The tokens are those of tree-sitter-python 0.25 and of the scanner that comes with it. How that scanner
keeps its state from one reading to the next is left out.
-/

set_option autoImplicit false

namespace Dimming

namespace PythonGrammar

open Form

/-- Words that are never names. -/
def reserved : List String := [
  "False", "None", "True", "and", "as", "assert", "break", "class", "continue", "def", "del", "elif",
  "else", "except", "finally", "for", "from", "global", "if", "import", "in", "is", "lambda",
  "nonlocal", "not", "or", "pass", "raise", "return", "try", "while", "with", "yield"]

/-- A character that opens a name. -/
def isNameStart (c : Char) : Bool := Scan.isLetter c || c == '_'

/-- A blank. -/
def isBlank (c : Char) : Bool :=
  Scan.isAsciiBlank c || [0xFEFF, 0x2060, 0x200B].contains c.toNat

/-- A name. -/
def identifier : Form := .leaf "identifier" (Scan.name isNameStart Scan.isNamePart reserved)

/-- A word as a node of a kind. -/
def wordNode (kind text : String) : Form :=
  .leaf kind (Scan.notBefore (Scan.text text) Scan.isNamePart)

/-- Digits of a sort with underscores between them. -/
def digitsOf (isDigit : Char → Bool) : Scanner := Scan.run (fun c => isDigit c || c == '_')

/-- A letter of either case. -/
def letter (lower upper : Char) : Scanner := Scan.one (fun c => c == lower || c == upper)

/-- Decimal digits. -/
def decimals : Scanner :=
  Scan.andMaybe (Scan.one Scan.isDigit) (digitsOf Scan.isDigit)

/-- A whole number. -/
def integer : Scanner :=
  let based (lower upper : Char) (isDigit : Char → Bool) : Scanner :=
    Scan.andMaybe (Scan.both (Scan.both (Scan.text "0") (letter lower upper)) (digitsOf isDigit))
      (letter 'l' 'L')
  Scan.longest [
    based 'x' 'X' Scan.isHexDigit,
    based 'o' 'O' (fun c => '0' ≤ c && c ≤ '7'),
    based 'b' 'B' (fun c => c == '0' || c == '1'),
    Scan.andMaybe decimals (Scan.one (fun c => "lLjJ".toList.contains c))]

/-- A number with a point or an exponent. -/
def float : Scanner :=
  let exponent := Scan.both (letter 'e' 'E')
    (Scan.maybeThen (Scan.one (fun c => c == '+' || c == '-')) decimals)
  Scan.andMaybe
    (Scan.longest [
      Scan.andMaybe (Scan.andMaybe (Scan.both decimals (Scan.text ".")) decimals) exponent,
      Scan.andMaybe (Scan.maybeThen decimals (Scan.both (Scan.text ".") decimals)) exponent,
      Scan.both decimals exponent])
    (letter 'j' 'J')

/-- The sort of a string. -/
structure Quotes where
  /-- The quote. -/
  quote : Char
  /-- Three quotes open and close it. -/
  triple : Bool
  /-- It holds expressions. -/
  formatted : Bool
  /-- A backslash stands for itself. -/
  raw : Bool

namespace Quotes

/-- The sorts of strings. -/
def all : List Quotes :=
  ['"', '\x27'].flatMap fun quote => [true, false].flatMap fun triple =>
    [true, false].flatMap fun formatted => [true, false].map fun raw =>
      ⟨quote, triple, formatted, raw⟩

/-- The quotes that close the string. -/
def closing (quotes : Quotes) : List Char :=
  List.replicate (if quotes.triple then 3 else 1) quotes.quote

/-- The letters and quotes that open a string of the sort. -/
def opening (quotes : Quotes) : Scanner := fun text =>
  let letters := text.takeWhile (fun c => "fFtTrRbBuU".toList.contains c)
  let rest := text.drop letters.length
  let has (options : String) : Bool := letters.any (fun c => options.toList.contains c)
  let isTriple := (List.replicate 3 quotes.quote).isPrefixOf rest
  if has "fFtT" == quotes.formatted && has "rR" == quotes.raw && isTriple == quotes.triple
      && quotes.closing.isPrefixOf rest then
    letters.length + quotes.closing.length
  else 0

/-- The text of a string up to its end, an escape or an expression. -/
def plainText (quotes : Quotes) : Scanner
  | [] => 0
  | '\\' :: rest =>
    if quotes.raw then
      match rest with
      | c :: more =>
        if c == quotes.quote || c == '\\' || c == '\n' then plainText quotes more + 2
        else plainText quotes (c :: more) + 1
      | [] => 1
    else 0
  | c :: rest =>
    if quotes.closing.isPrefixOf (c :: rest) then 0
    else if quotes.formatted && (c == '\x7b' || c == '\x7d') then 0
    else if c == '\n' && !quotes.triple then 0
    else plainText quotes rest + 1

end Quotes

/-- A backslash with what it stands for. -/
def escape : Scanner
  | '\\' :: 'u' :: rest => if (rest.take 4).length = 4 && (rest.take 4).all Scan.isHexDigit then 6 else 0
  | '\\' :: 'U' :: rest => if (rest.take 8).length = 8 && (rest.take 8).all Scan.isHexDigit then 10 else 0
  | '\\' :: 'x' :: rest => if (rest.take 2).length = 2 && (rest.take 2).all Scan.isHexDigit then 4 else 0
  | '\\' :: 'N' :: '\x7b' :: rest =>
    match Scan.both (Scan.run (· != '\x7d')) (Scan.text "\x7d") rest with
    | 0 => 0
    | count => count + 3
  | '\\' :: '\r' :: '\n' :: _ => 3
  | '\\' :: c :: rest =>
    if Scan.isDigit c then 2 + Scan.run Scan.isDigit (rest.take 2)
    else if "\n\x27\"abfrntv\\".toList.contains c then 2
    else 0
  | _ => 0

/-- The content of a string between its expressions. -/
def content (quotes : Quotes) : Form :=
  let doubled := Form.leaf "escape_interpolation"
    (Scan.first [Scan.text "\x7b\x7b", Scan.text "\x7d\x7d"])
  .node "string_content" (many1 (.glued (.alt (
    (if quotes.formatted then [doubled] else [])
      ++ (if quotes.raw then [] else [.leaf "escape_sequence" escape, .quiet (Scan.text "\\")])
      ++ [.quiet quotes.plainText]))))

/-- A string of a sort. -/
def stringOf (quotes : Quotes) : Form :=
  .seq [.leaf "string_start" quotes.opening,
    .many (.alt (content quotes :: if quotes.formatted then [.glued (use "interpolation")] else [])),
    .glued (.leaf "string_end" (Scan.text (String.ofList quotes.closing)))]

/-- A string. -/
def string : Form := .node "string" (.alt (Quotes.all.map stringOf))

/-- A line that goes on behind a backslash. -/
def joinedLine : Scanner :=
  Scan.first [Scan.text "\\\n", Scan.text "\\\r\n"]

/-- The extras. -/
def extras : List Extra := [
  Scan.tokenExtra "comment" (Scan.lineComment "#" (· == '\n')),
  Scan.tokenExtra "line_continuation" joinedLine]

/-- The number of blanks at the start of a line, joined lines included. -/
def lineBlanks : List Char → Nat
  | '\\' :: '\n' :: rest => lineBlanks rest + 2
  | '\\' :: '\r' :: '\n' :: rest => lineBlanks rest + 3
  | c :: rest => if c != '\n' && isBlank c then lineBlanks rest + 1 else 0
  | [] => 0

/-- The number of characters up to and with the comment that ends the line; none when something else
follows on the line. -/
def endOfLine (text : List Char) : Option Nat :=
  let blanks := lineBlanks text
  match text.drop blanks with
  | [] => some 0
  | '\n' :: _ => some 0
  | '#' :: rest => some (blanks + 1 + Scan.run (· != '\n') rest)
  | _ => none

/-- The indentation of the next line that is neither blank nor a comment; the end of the text is not
indented. -/
def nextIndent : Bool → Nat → List Char → Nat
  | _, _, [] => 0
  | _, _, '\n' :: rest => nextIndent false 0 rest
  | true, indent, _ :: rest => nextIndent true indent rest
  | false, indent, c :: rest =>
    if c == ' ' then nextIndent false (indent + 1) rest
    else if c == '\t' then nextIndent false (indent + 8) rest
    else if c == '\r' || c == '\x0c' then nextIndent false 0 rest
    else if c == '#' then nextIndent true indent rest
    else if c == '\\' then nextIndent false indent rest
    else indent

/-- The number of characters up to the end of the last comment that is indented at least as much as
asked for, before the first that is not. -/
def ownComments (least : Nat) : Bool → Nat → Nat → Nat → List Char → Nat
  | inComment, _, count, best, [] => if inComment then count else best
  | inComment, _, count, best, '\n' :: rest =>
    ownComments least false 0 (count + 1) (if inComment then count else best) rest
  | true, indent, count, best, _ :: rest => ownComments least true indent (count + 1) best rest
  | false, indent, count, best, c :: rest =>
    if c == ' ' then ownComments least false (indent + 1) (count + 1) best rest
    else if c == '\t' then ownComments least false (indent + 8) (count + 1) best rest
    else if c == '\r' || c == '\x0c' then ownComments least false 0 (count + 1) best rest
    else if c == '#' && least ≤ indent then ownComments least true indent (count + 1) best rest
    else best

/-- The indentation of the innermost block. -/
def blockIndent (cursor : Cursor) : Nat := cursor.indents.headD 0

/-- The next line belongs to the block. -/
def inBlock (cursor : Cursor) : Bool :=
  blockIndent cursor ≤ nextIndent false 0 cursor.rest

/-- The end of a logical line. -/
def lineEnd : Form :=
  .mark (fun cursor => (endOfLine cursor.rest).map (fun count => (count, { cursor with fresh := true })))

/-- The start of a block. -/
def indent : Form := .mark fun cursor =>
  let depth := nextIndent false 0 cursor.rest
  if blockIndent cursor < depth then
    (endOfLine cursor.rest).map fun count =>
      (count, { cursor with fresh := true, indents := depth :: cursor.indents })
  else none

/-- The end of a block. -/
def dedent : Form := .mark fun cursor =>
  if inBlock cursor then none
  else some (ownComments (blockIndent cursor) false 0 0 0 cursor.rest,
    { cursor with indents := cursor.indents.tail })

end PythonGrammar

end Dimming
