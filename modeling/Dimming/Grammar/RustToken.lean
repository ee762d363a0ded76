import Dimming.Grammar.Scan

/-!
# The tokens of Rust

Names, literals and comments. A number is a float when it has a fraction or an exponent; a name in
quotes with one character is a character literal and otherwise a lifetime.

The tokens are those of tree-sitter-rust 0.23 and of the scanner that comes with it. How that scanner
keeps its state from one reading to the next is left out.
-/

set_option autoImplicit false

namespace Dimming

namespace RustGrammar

open Form

/-- Words that are never names. -/
def reserved : List String := [
  "_", "as", "async", "await", "break", "const", "continue", "crate", "dyn", "else", "enum",
  "extern", "false", "fn", "for", "if", "impl", "in", "let", "loop", "match", "mod", "move", "mut",
  "pub", "ref", "return", "self", "static", "struct", "super", "trait", "true", "type", "unsafe",
  "use", "where", "while"]

/-- Words that token trees keep apart from names. -/
def treeWords : List String := [
  "as", "async", "await", "break", "const", "continue", "default", "enum", "fn", "for", "gen", "if",
  "impl", "let", "loop", "match", "mod", "pub", "return", "static", "struct", "trait", "type",
  "union", "unsafe", "use", "where", "while"]

/-- The types that are built in. -/
def primitives : List String := [
  "u8", "i8", "u16", "i16", "u32", "i32", "u64", "i64", "u128", "i128", "isize", "usize", "f32",
  "f64", "bool", "str", "char"]

/-- A character that opens a name. -/
def isNameStart (c : Char) : Bool := Scan.isLetter c || c == '_'

/-- A name that is none of the given words; behind a raw mark it can be any word. -/
def nameExcept (words : List String) : Scanner := fun rest =>
  match Scan.both (Scan.text "r#") (Scan.name isNameStart Scan.isNamePart ["_"]) rest with
  | 0 => Scan.name isNameStart Scan.isNamePart words rest
  | count => count

/-- A name. -/
def identifier : Scanner := nameExcept reserved

/-- One of some words. -/
def anyWord (words : List String) : Scanner := fun rest =>
  let count := Scan.name isNameStart Scan.isNamePart [] rest
  if words.contains (String.ofList (rest.take count)) then count else 0

/-- The suffixes that tell the type of a number. -/
def numberSuffix : Scanner :=
  Scan.longest (["u8", "i8", "u16", "i16", "u32", "i32", "u64", "i64", "u128", "i128", "isize",
    "usize", "f32", "f64"].map Scan.text)

/-- A digit or an underscore. -/
def isDigitOrGap (c : Char) : Bool := Scan.isDigit c || c == '_'

/-- A whole number. -/
def integer : Scanner :=
  Scan.andMaybe
    (Scan.first [
      Scan.both (Scan.text "0x") (Scan.run (fun c => Scan.isHexDigit c || c == '_')),
      Scan.both (Scan.text "0b") (Scan.run (fun c => c == '0' || c == '1' || c == '_')),
      Scan.both (Scan.text "0o") (Scan.run (fun c => ('0' ≤ c && c ≤ '7') || c == '_')),
      Scan.andMaybe (Scan.one Scan.isDigit) (Scan.run isDigitOrGap)])
    numberSuffix

/-- An exponent. -/
def exponent : Scanner :=
  Scan.both (Scan.one (fun c => c == 'e' || c == 'E'))
    (Scan.maybeThen (Scan.one (fun c => c == '+' || c == '-')) (Scan.run isDigitOrGap))

/-- A point with digits behind it, if any. No name and no further point follows it at once. -/
def fraction : Scanner :=
  Scan.andMaybe (Scan.notBefore (Scan.text ".") (fun c => isNameStart c || c == '.'))
    (Scan.run isDigitOrGap)

/-- A number with a fraction or an exponent. -/
def float : Scanner :=
  let digits := Scan.andMaybe (Scan.one Scan.isDigit) (Scan.run isDigitOrGap)
  Scan.andMaybe
    (Scan.first [
      Scan.both digits (Scan.first [Scan.andMaybe fraction exponent, exponent])])
    (Scan.first [Scan.text "f32", Scan.text "f64"])

/-- A backslash with what it stands for. -/
def escape : Scanner
  | '\\' :: 'x' :: a :: b :: _ => if Scan.isHexDigit a && Scan.isHexDigit b then 4 else 0
  | '\\' :: 'u' :: '\x7b' :: rest =>
    match Scan.both (Scan.run Scan.isHexDigit) (Scan.text "\x7d") rest with
    | 0 => 0
    | count => count + 3
  | '\\' :: 'u' :: a :: b :: c :: d :: _ => if [a, b, c, d].all Scan.isHexDigit then 6 else 0
  | '\\' :: c :: _ => if c == 'x' || c == 'u' then 0 else 2
  | _ => 0

/-- A character in single quotes. -/
def character : Scanner :=
  Scan.maybeThen (Scan.text "b")
    (Scan.both (Scan.text "'")
      (Scan.maybeThen (Scan.first [escape, Scan.one (fun c => c != '\\' && c != '\'')])
        (Scan.text "'")))

/-- The opening of a string, with the letter that tells its sort. -/
def openQuote : Scanner :=
  Scan.maybeThen (Scan.one (fun c => c == 'b' || c == 'c')) (Scan.text "\"")

/-- The letters and the hash signs with which a raw string opens; none when it does not. -/
def rawMarks (text : List Char) : Option (Nat × Nat) :=
  let letters := Scan.first [Scan.text "br", Scan.text "cr", Scan.text "r"] text
  let marks := Scan.run (· == '#') (text.drop letters)
  if letters ≠ 0 ∧ (text.drop (letters + marks)).head? = some '"' then some (letters, marks) else none

/-- The names of the comment nodes. -/
def commentLeaf (field kind : String) (text : List Char) : Tree :=
  .leaf { Label.ofKind kind with fields := [field] } text

/-- The length of a comment to the end of its line; the line break belongs to documentation. -/
def lineComment : Scanner := fun text =>
  match text with
  | '/' :: '/' :: rest =>
    let line := Scan.run (· != '\n') rest
    let isDoc := match rest with
      | '/' :: '/' :: _ => false
      | '/' :: _ => true
      | '!' :: _ => true
      | _ => false
    let ends := (rest.drop line).head? == some '\n'
    2 + line + (if isDoc && ends then 1 else 0)
  | _ => 0

/-- The tree of a comment to the end of its line. -/
def lineCommentTree (text : List Char) : Tree :=
  let doc (field kind : String) (mark : Char) (rest : List Char) : List Tree :=
    [commentLeaf field kind [mark], commentLeaf "doc" "doc_comment" rest]
  let parts := match text.drop 2 with
    | '/' :: '/' :: _ => [Tree.hidden (text.drop 2)]
    | '/' :: rest => doc "outer" "outer_doc_comment_marker" '/' rest
    | '!' :: rest => doc "inner" "inner_doc_comment_marker" '!' rest
    | rest => [.hidden rest]
  .branch (.ofExtra "line_comment") (.leaf (.ofToken "//") (text.take 2) :: parts)

/-- The tree of a comment that closes. -/
def blockCommentTree (text : List Char) : Tree :=
  let inside := (text.drop 2).take (text.length - 4)
  let doc (field kind : String) (mark : Char) (rest : List Char) : List Tree :=
    commentLeaf field kind [mark]
      :: if rest.isEmpty then [] else [commentLeaf "doc" "doc_comment" rest]
  let parts := match inside with
    | '*' :: '*' :: _ => [Tree.hidden inside]
    | '*' :: rest => doc "outer" "outer_doc_comment_marker" '*' rest
    | '!' :: rest => doc "inner" "inner_doc_comment_marker" '!' rest
    | [] => []
    | _ => [.hidden inside]
  .branch (.ofExtra "block_comment") (.leaf (.ofToken "/*") (text.take 2)
    :: parts ++ [.leaf (.ofToken "*/") (text.drop (text.length - 2))])

/-- The comments. -/
def extras : List Extra := [
  ⟨"line_comment", lineComment, lineCommentTree, ["///a", "//!a", "//a"]⟩,
  ⟨"block_comment", Scan.nestedComment, blockCommentTree, ["/**a*/", "/*!a*/", "/*a*/"]⟩]

/-- A comment that stays open up to the end of the text. -/
def openComment : Form :=
  .node "block_comment" (.seq ["/*", .opt (.glued (.quiet openRest)), .closing "*/"])
where
  /-- The whole text, unless something in it closes a comment. -/
  openRest : Scanner := fun text =>
    if Scan.through ['*', '/'] text = 0 then text.length else 0

/-- A name as a node of some kind. -/
def nameAs (kind : String) : Form := .leaf kind identifier

/-- A string with escapes. -/
def string : Form :=
  .node "string_literal" (.seq [.retitle "\"" false (.leaf "\"" openQuote),
    .many (.glued (.alt [.leaf "string_content" (Scan.run (fun c => c != '"' && c != '\\')),
      .leaf "escape_sequence" escape])),
    .glued "\""])

/-- A raw string with a given number of hash signs, up to the first end with as many. -/
def rawWith (marks : Nat) : Form :=
  let closing := '"' :: List.replicate marks '#'
  let content : Scanner := fun text =>
    match Scan.through closing text with
    | 0 => 0
    | count => count - closing.length
  let opening : Scanner := fun text =>
    match rawMarks text with
    | some (letters, found) => if found = marks then letters + marks + 1 else 0
    | none => 0
  .seq [.quiet opening, .opt (.glued (.leaf "string_content" content)),
    Form.glued (.quiet (Scan.text (String.ofList closing)))]

/-- A raw string with up to eight hash signs. -/
def rawStringForm : Form :=
  .node "raw_string_literal" (.alt ((List.range 9).map rawWith))

/-- A truth value, which holds its word. -/
def boolean : Form := .node "boolean_literal" (.alt ["true", "false"])

/-- The forms of literals. -/
def literals : List Form := [
  string, rawStringForm, .leaf "char_literal" character, boolean, .leaf "float_literal" float,
  .leaf "integer_literal" integer]

/-- A lifetime or a label. -/
def quotedName (kind : String) : Form :=
  .node kind (.seq ["'", .glued (.leaf "identifier" (nameExcept []))])

end RustGrammar

end Dimming
