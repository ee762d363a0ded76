import Dimming.Buffer
import Dimming.Grammar.OfLanguage
import Dimming.Rules.Rule

/-!
# Parsers

A parser belongs to one language and holds the tree of the text that it was last given, together with
the edits it has been told of since it first had a tree. It leaves the reading to an engine, which may
make use of the tree from before an edit. An engine may refuse a language and may give a text up; a parser
that was told of an edit then keeps its former tree, moved to where the edit leaves it.
-/

set_option autoImplicit false

namespace Dimming

/-- A parser of one language with its latest tree. -/
structure Parser where
  /-- The language. -/
  language : Language
  /-- The tree of the text that was parsed last. -/
  tree : Option Tree
  /-- The edits that the tree was told of since the first one. -/
  edits : List Edit

/-- What reads texts for parsers. -/
class ParseEngine where
  /-- The grammar of a language can be used. -/
  accepts : Language → Bool
  /-- A tree moved to where an edit of its text leaves it. -/
  moved : Edit → Tree → Tree
  /-- The tree of a text, unless the reading is given up. A tree that was read before may be given for
  help, moved to where the edits since then leave it. -/
  read : Language → Option Tree → List Char → Option Tree

/-- An engine that refuses no language and gives no text up. Engines are known to do so: to give a text up,
one has to be without a grammar, to be cancelled or to run out of time, and none of this is asked for. -/
class ReliableEngine [ParseEngine] : Prop where
  accepts_all : ∀ language, ParseEngine.accepts language = true
  read_isSome : ∀ language former text, (ParseEngine.read language former text).isSome = true

namespace ParseEngine

/-- The tree of a text that a new parser of a language reads, if there is such a parser and it does not
give the text up. -/
def first? [ParseEngine] (language : Language) (text : List Char) : Option Tree :=
  if accepts language then read language none text else none

/-- Reads every text afresh by the grammar of its language. A former tree is of no use to it, so there is
no need to move one. -/
instance : ParseEngine where
  accepts _ := true
  moved _ tree := tree
  read language _ text := some (language.parse text)

instance : ReliableEngine where
  accepts_all _ := rfl
  read_isSome _ _ _ := rfl

end ParseEngine

namespace Parser

/-- A parser that has parsed nothing. -/
def fresh (language : Language) : Parser := ⟨language, none, []⟩

/-- A parser of a language, if its grammar can be used. -/
def ofLanguage [ParseEngine] (language : Language) : Except LanguageError Parser :=
  if ParseEngine.accepts language then .ok (fresh language) else .error .notParsed

/-- Parses a text with the help of the tree that the parser holds; that tree stays when the text is given
up. -/
def parse [ParseEngine] (parser : Parser) (text : List Char) : Except LanguageError Unit × Parser :=
  match ParseEngine.read parser.language parser.tree text with
  | none => (.error .notParsed, parser)
  | some tree => (.ok (), { parser with tree := some tree })

/-- Tells the tree of a parser of an edit; an edit before the first tree is of no use. -/
def tell [ParseEngine] (parser : Parser) (edit : Edit) : Parser :=
  { parser with
    tree := parser.tree.map (ParseEngine.moved edit)
    edits := if parser.tree.isSome then parser.edits ++ [edit] else parser.edits }

/-- Parses a text that came about by an edit. -/
def parseAfter [ParseEngine] (parser : Parser) (edit : Edit) (text : List Char) :
    Except LanguageError Unit × Parser :=
  (parser.tell edit).parse text

/-- Parses a text that came about by an edit with one parser after the other, up to the first one that
gives it up. -/
def parseAllAfter [ParseEngine] (edit : Edit) (text : List Char) :
    List Parser → Except LanguageError Unit × List Parser
  | [] => (.ok (), [])
  | parser :: rest =>
    match parser.parseAfter edit text with
    | (.error cause, parser) => (.error cause, parser :: rest)
    | (.ok (), parser) =>
      let (answer, rest) := parseAllAfter edit text rest
      (answer, parser :: rest)

/-- The parser in diagnostic output. -/
def describe (parser : Parser) : String :=
  "SyntaxParser \x7b language: " ++ parser.language.title ++ ", parsed: "
    ++ toString parser.tree.isSome ++ " \x7d"

end Parser

namespace Tree

/-- The kind of the node that a whole tree consists of. -/
def rootKind (tree : Tree) : String := tree.kind?.getD ""

end Tree

end Dimming
