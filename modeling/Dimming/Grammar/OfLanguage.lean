import Dimming.Language
import Dimming.Grammar.Json
import Dimming.Grammar.PythonStatement
import Dimming.Grammar.RustItem
import Dimming.Grammar.Script
import Dimming.Grammar.Vocabulary
import Dimming.Grammar.Read

/-!
# The grammar of each language

Every language has one grammar, and from it the names that patterns over the language may use. Reading
a text by the grammar of a language is what `Language.parse` does.

The grammars are those of tree-sitter-rust 0.23, tree-sitter-javascript 0.23, tree-sitter-typescript 0.23
with its two dialects, tree-sitter-python 0.25 and tree-sitter-json 0.24. All kinds of nodes that they
document are there; the queries that come with them are left out.
-/

set_option autoImplicit false

namespace Dimming

namespace Language

/-- The grammar of a language. -/
def grammar : Language → Grammar
  | .rust => rustGrammar
  | .javaScript => javaScriptGrammar
  | .typeScript => typeScriptGrammar
  | .tsx => typeScriptMarkupGrammar
  | .python => pythonGrammar
  | .json => jsonGrammar

/-- The names that patterns over JSON may use. -/
def jsonNames : Vocabulary := jsonGrammar.vocabulary

/-- The names that patterns over Rust may use. -/
def rustNames : Vocabulary := rustGrammar.vocabulary

/-- The names that patterns over JavaScript may use. -/
def javaScriptNames : Vocabulary := javaScriptGrammar.vocabulary

/-- The names that patterns over TypeScript may use. -/
def typeScriptNames : Vocabulary := typeScriptGrammar.vocabulary

/-- The names that patterns over TypeScript with markup may use. -/
def tsxNames : Vocabulary := typeScriptMarkupGrammar.vocabulary

/-- The names that patterns over Python may use. -/
def pythonNames : Vocabulary := pythonGrammar.vocabulary

/-- The names that patterns over a language may use. -/
def vocabulary : Language → Vocabulary
  | .rust => rustNames
  | .javaScript => javaScriptNames
  | .typeScript => typeScriptNames
  | .tsx => tsxNames
  | .python => pythonNames
  | .json => jsonNames

/-- The tree of a text. -/
def parse (language : Language) (text : List Char) : Tree :=
  language.grammar.read text

/-- The tree keeps every character. -/
theorem chars_parse (language : Language) (text : List Char) :
    (language.parse text).chars = text :=
  Grammar.chars_read _ _

end Language

end Dimming
