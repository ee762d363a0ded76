import Dimming.Grammar.Scan

/-!
# The tokens of the script languages

The script languages are one language in several dialects: with or without types, with or without
markup. Their tokens are the same: names, numbers, strings, templates, regular expressions and
comments. A statement may end without a semicolon where a line ends; `endsHere` tells where.

The tokens are those of tree-sitter-javascript 0.23 and of the scanner that comes with it. How that
scanner keeps its state from one reading to the next is left out.
-/

set_option autoImplicit false

namespace Dimming

/-- A dialect of the script languages. -/
structure Dialect where
  /-- Types can be declared and noted. -/
  typed : Bool
  /-- Markup elements are expressions. -/
  markup : Bool

namespace ScriptGrammar

open Form

/-- Words that are never names. -/
def reserved : List String := [
  "await", "break", "case", "catch", "class", "const", "continue", "debugger", "default", "delete",
  "do", "else", "extends", "false", "finally", "for", "function", "if", "import", "in", "instanceof",
  "new", "null", "return", "super", "switch", "this", "throw", "true", "try", "typeof", "undefined",
  "var", "void", "while", "with", "yield"]

/-- Keywords that are names wherever a name is asked for. -/
def softWords : List String := ["get", "set", "async", "static", "export", "let"]

/-- Keywords about types that are names wherever a name is asked for. -/
def softTypeWords : List String := [
  "declare", "namespace", "type", "public", "private", "protected", "override", "readonly", "module",
  "any", "number", "boolean", "string", "symbol", "object", "new"]

/-- The characters that take no part in words although they are no control characters. -/
def punctuation : List Char := ":;\x60\"'@#.,|^&<=>+-*/\\%?!~()[]\x7b\x7d".toList

/-- A blank between tokens. -/
def isBlank (c : Char) : Bool :=
  Scan.isAsciiBlank c
    || [0x85, 0xA0, 0x1680, 0x202F, 0x205F, 0x3000, 0xFEFF, 0x2060, 0x2028, 0x2029].contains c.toNat
    || (0x2000 ≤ c.toNat && c.toNat ≤ 0x200B)

/-- A character that ends a line. -/
def isBreak (c : Char) : Bool :=
  c == '\n' || c == '\r' || c.toNat == 0x2028 || c.toNat == 0x2029

/-- A character of a word. -/
def isWordPart (c : Char) : Bool :=
  !(isBlank c || c.toNat < 0x20 || punctuation.contains c)

/-- A character that opens a word. -/
def isWordStart (c : Char) : Bool := isWordPart c && !Scan.isDigit c

/-- A word that is none of the given ones. -/
def wordExcept (words : List String) : Scanner := Scan.name isWordStart isWordPart words

/-- One given word. -/
def word (text : String) : Scanner :=
  Scan.notBefore (Scan.text text) isWordPart

/-- A word as a node of its own. -/
def wordNode (text : String) : Form := .leaf text (word text)

/-- A name where keywords are names as well, unless they are reserved. -/
def plainName (kind : String) : Form := .leaf kind (wordExcept reserved)

/-- A name where every word is one. -/
def anyName (kind : String) : Form := .leaf kind (wordExcept [])

/-- The keywords that are names wherever a name is asked for. -/
def softWordsOf (dialect : Dialect) : List String :=
  if dialect.typed then softTypeWords ++ softWords else softWords

/-- A name; one that is spelled like a keyword holds the keyword. -/
def name (dialect : Dialect) (kind : String) : Form :=
  .alt [.leaf kind (wordExcept (reserved ++ softWordsOf dialect)),
    .node kind (.alt ((softWordsOf dialect).map Form.lit))]

/-- A private name. -/
def privateName : Form :=
  .leaf "private_property_identifier" (Scan.both (Scan.text "#") (wordExcept []))

/-- Digits of a sort with single underscores between them. -/
def groupedDigits (isDigit : Char → Bool) : Scanner
  | [] => 0
  | '_' :: _ => 0
  | c :: rest => if isDigit c then more rest + 1 else 0
where
  /-- The digits behind the first one. -/
  more : List Char → Nat
    | '_' :: c :: rest => if isDigit c then more rest + 2 else 0
    | c :: rest => if isDigit c then more rest + 1 else 0
    | [] => 0

/-- Decimal digits. -/
def decimalDigits : Scanner := groupedDigits Scan.isDigit

/-- Digits behind a zero and a letter. -/
def basedDigits (marks : List String) (isDigit : Char → Bool) : Scanner :=
  Scan.both (Scan.first (marks.map Scan.text)) (groupedDigits isDigit)

/-- An exponent. -/
def exponent : Scanner :=
  Scan.both (Scan.one (fun c => c == 'e' || c == 'E'))
    (Scan.maybeThen (Scan.one (fun c => c == '+' || c == '-')) decimalDigits)

/-- A number. -/
def number : Scanner :=
  let wholes := [
    basedDigits ["0x", "0X"] Scan.isHexDigit,
    basedDigits ["0b", "0B"] (fun c => c == '0' || c == '1'),
    basedDigits ["0o", "0O"] (fun c => '0' ≤ c && c ≤ '7'),
    decimalDigits]
  Scan.longest [
    Scan.andMaybe (Scan.longest wholes) (Scan.text "n"),
    Scan.andMaybe (Scan.andMaybe (Scan.both decimalDigits (Scan.text ".")) decimalDigits) exponent,
    Scan.andMaybe (Scan.both (Scan.text ".") decimalDigits) exponent,
    Scan.both decimalDigits exponent]

/-- A backslash with what it stands for. -/
def escape : Scanner
  | '\\' :: 'x' :: a :: b :: _ => if Scan.isHexDigit a && Scan.isHexDigit b then 4 else 0
  | '\\' :: 'u' :: '\x7b' :: rest =>
    match Scan.both (Scan.run Scan.isHexDigit) (Scan.text "\x7d") rest with
    | 0 => 0
    | count => count + 3
  | '\\' :: 'u' :: a :: b :: c :: d :: _ => if [a, b, c, d].all Scan.isHexDigit then 6 else 0
  | '\\' :: '\r' :: '\n' :: _ => 3
  | '\\' :: c :: rest =>
    let isOctal (c : Char) : Bool := '0' ≤ c && c ≤ '7'
    if c == 'x' || c == 'u' then 0
    else if isOctal c then 2 + Scan.run isOctal (rest.take 2)
    else 2
  | _ => 0

/-- The quote that opens a string, and the text behind it. -/
def openQuoted (quote : Char) : Form :=
  .seq [.lit (String.ofList [quote]),
    .many (.glued (.alt [
      .leaf "string_fragment" (Scan.run (fun c => c != quote && c != '\\' && c != '\r' && c != '\n')),
      .leaf "escape_sequence" escape]))]

/-- A string in quotes of one sort. -/
def quoted (quote : Char) : Form :=
  .seq [openQuoted quote, .glued (.lit (String.ofList [quote]))]

/-- A string. -/
def string : Form := .node "string" (.alt [quoted '"', quoted '\x27'])

/-- The text of a template up to its end, an escape or a substitution; none when the template stays
open. -/
def templateText : Scanner
  | [] => 0
  | '\x60' :: _ => 0
  | '\\' :: _ => 0
  | '$' :: '\x7b' :: _ => 0
  | _ :: rest => if rest.isEmpty then 0 else templateText rest + 1

/-- A template with the given substitutions. -/
def template (kind : String) (parts : List Form) : Form :=
  .node kind (.seq ["\x60",
    .many (.glued (.alt (.leaf "string_fragment" templateText :: parts))),
    .glued "\x60"])

/-- The inside of a regular expression, with the slashes of its classes; none when it stays open. -/
def regexLength : Bool → Scanner
  | _, [] => 0
  | _, '\n' :: _ => 0
  | inClass, '\\' :: c :: rest => if c == '\n' then 0 else regexLength inClass rest + 2
  | inClass, c :: rest =>
    if c == '/' && !inClass then 0
    else
      let inClass := if c == '[' then true else if c == ']' then false else inClass
      regexLength inClass rest + 1

/-- A regular expression. -/
def regex : Form :=
  .node "regex" (.seq ["/", .field "pattern" (.glued (.leaf "regex_pattern" (regexLength false))),
    .glued "/",
    .opt (.field "flags" (.glued (.leaf "regex_flags" (Scan.run (fun c => 'a' ≤ c && c ≤ 'z')))))])

/-- A comment to the end of the line that opens with a mark of markup. -/
def markComment : Scanner :=
  Scan.lineComment "<!--" isBreak

/-- The comments. -/
def extras : List Extra := [
  Scan.tokenExtra "comment" (Scan.lineComment "//" isBreak),
  Scan.tokenExtra "comment" Scan.blockComment,
  Scan.tokenExtra "html_comment" markComment]

/-- Passes over blanks and comments. -/
def passBlanks : Nat → List Char → List Char
  | 0, text => text
  | fuel + 1, text =>
    match Scan.run isBlank text with
    | 0 =>
      match Scan.first [Scan.lineComment "//" isBreak, Scan.blockComment] text with
      | 0 => text
      | count => passBlanks fuel (text.drop count)
    | count => passBlanks fuel (text.drop count)

/-- What stands on the next line does not go on with the statement before. -/
def opensStatement (text : List Char) : Bool :=
  match text with
  | [] => true
  | '.' :: c :: _ => Scan.isDigit c
  | '+' :: c :: _ => c == '+'
  | '-' :: c :: _ => c == '-'
  | '!' :: c :: _ => c != '='
  | c :: _ =>
    if "\x60,:;*%><=[(?^|&/.+-".toList.contains c then false
    else word "in" text == 0 && word "instanceof" text == 0

/-- The line ends here: a break follows, with at most blanks and comments before it. -/
def breaksHere : Nat → List Char → Bool
  | 0, _ => false
  | fuel + 1, text =>
    match text with
    | [] => true
    | c :: rest =>
      if isBreak c then true
      else if isBlank c then breaksHere fuel rest
      else match Scan.first [Scan.lineComment "//" isBreak, Scan.blockComment] text with
        | 0 => false
        | count => breaksHere fuel (text.drop count)

/-- A statement may end here without a semicolon. -/
def endsHere (cursor : Cursor) : Bool :=
  let fuel := cursor.left + 1
  match passBlanks fuel cursor.rest with
  | [] => true
  | '\x7d' :: _ => true
  | next => breaksHere fuel cursor.rest && opensStatement next

/-- The next token stands on the same line. -/
def sameLine (cursor : Cursor) : Bool :=
  !breaksHere (cursor.left + 1) cursor.rest

end ScriptGrammar

end Dimming
