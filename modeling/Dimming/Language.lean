import Dimming.Text.LetterCase
import Dimming.Text.Path

/-!
# Languages

The six languages with a grammar, their stable names and the file extensions that stand for them.
Names match exactly; extensions match in any letter case.
-/

set_option autoImplicit false

namespace Dimming

/-- A language with a grammar, in declaration order. -/
inductive Language where
  | rust
  | javaScript
  | typeScript
  | tsx
  | python
  | json
  deriving DecidableEq, Repr, Inhabited

namespace Language

/-- Every language, in declaration order. -/
def all : List Language :=
  [.rust, .javaScript, .typeScript, .tsx, .python, .json]

/-- The stable name, as configuration files spell it. -/
def name : Language → String
  | .rust => "rust"
  | .javaScript => "javascript"
  | .typeScript => "typescript"
  | .tsx => "tsx"
  | .python => "python"
  | .json => "json"

/-- The name in diagnostic output. -/
def title : Language → String
  | .rust => "Rust"
  | .javaScript => "JavaScript"
  | .typeScript => "TypeScript"
  | .tsx => "Tsx"
  | .python => "Python"
  | .json => "Json"

/-- The place in declaration order. -/
def rank : Language → Nat
  | .rust => 0
  | .javaScript => 1
  | .typeScript => 2
  | .tsx => 3
  | .python => 4
  | .json => 5

/-- The language of a stable name. -/
def ofName? (text : String) : Option Language :=
  all.find? (fun language => language.name == text)

/-- The lower-case extensions of a language. -/
def extensions : Language → List String
  | .rust => ["rs"]
  | .javaScript => ["js", "mjs", "cjs", "jsx"]
  | .typeScript => ["ts", "mts", "cts"]
  | .tsx => ["tsx"]
  | .python => ["py", "pyi"]
  | .json => ["json"]

/-- The language that lists an extension, when that is put in small letters. -/
def ofExtensionChars? (extension : List Char) : Option Language :=
  let lowered := Text.lower extension
  all.find? (fun language => language.extensions.any (fun listed => listed.toList == lowered))

/-- The language of a file extension. -/
def ofExtension? (extension : String) : Option Language :=
  ofExtensionChars? extension.toList

/-- The language of a path, by its extension. -/
def ofPath? (path : String) : Option Language :=
  match Path.extension? path with
  | none => none
  | some extension => ofExtensionChars? extension

end Language

end Dimming
