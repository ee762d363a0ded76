import Dimming.Feature
import Dimming.Pattern.Query
import Dimming.Supply
import Dimming.Text.Quoted

/-!
# Rules

A rule pairs a pattern with a style, tags it with a feature and belongs to one language. Patterns are
written without a capture of their own: each is compiled with a capture behind it, so that the whole
match is what the rule marks. Rules are told apart by identity; compiling a text twice gives two rules.
-/

set_option autoImplicit false

namespace Dimming

/-- The name of a visual style. -/
structure Style where
  name : String
  deriving DecidableEq, Repr, Inhabited

/-- The feature that overlay rules are tagged with unless another one is asked for. -/
def Feature.overlay : Feature := ⟨"recede"⟩

/-- The style of overlay entries that name none. -/
def Style.deemphasis : Style := ⟨"deemphasis"⟩

/-- A pattern that is yet to be compiled, with a style if it names one. -/
structure Entry where
  pattern : String
  style : Option String
  deriving DecidableEq, Repr, Inhabited

/-- Why a pattern makes no rule. -/
inductive RuleFault where
  /-- The pattern is refused. -/
  | pattern (fault : PatternFault)
  /-- The text holds more or fewer patterns than one. -/
  | patternCount (found : Nat)
  /-- The capture behind the pattern is not part of it. -/
  | captureSwallowed
  deriving DecidableEq, Repr

/-- Why something about languages and their rules failed. -/
inductive LanguageError where
  | unknownLanguage (name : String)
  /-- No parser could be made for a language, or a parser gave a text up. -/
  | notParsed
  | invalidPattern (language : Language) (pattern : String) (fault : RuleFault)
  deriving DecidableEq, Repr

/-- The name of the capture that marks what a rule styles. -/
def ruleCapture : String := "rule"

/-- The source that is compiled for a pattern: its text without outer blanks, and the capture. -/
def ruleSource (pattern : String) : List Char :=
  Text.trim pattern.toList ++ " @rule".toList

/-- The wording of a fault in a pattern. -/
def RuleFault.message (pattern : String) : RuleFault → String
  | .pattern fault => fault.message (ruleSource pattern)
  | .patternCount found => "expected one pattern, found " ++ toString found
  | .captureSwallowed => "pattern swallowed the rule capture"

/-- The wording of an error. -/
def LanguageError.message : LanguageError → String
  | .unknownLanguage name => "Unknown language: " ++ name
  | .notParsed => "Parser error"
  | .invalidPattern language pattern fault =>
    "Invalid pattern for " ++ language.name ++ ": " ++ pattern ++ ": " ++ fault.message pattern

/-- A compiled pattern and the number of the capture that marks what it styles. -/
structure Compiled where
  query : Query
  capture : Nat

/-- A way to compile the pattern texts of a language. -/
abbrev Compiler := Language → String → Except RuleFault Compiled

/-- Compiles a pattern text with the capture behind it. The text must hold exactly one pattern, and
the capture must be known to the query. -/
def compilePattern : Compiler := fun language pattern =>
  match Query.compile language (ruleSource pattern) with
  | .error fault => .error (.pattern fault)
  | .ok query =>
    if query.patterns.length ≠ 1 then .error (.patternCount query.patterns.length)
    else match query.captures.findIdx? (· == ruleCapture) with
      | none => .error .captureSwallowed
      | some capture => .ok ⟨query, capture⟩

/-- A compiled rule. -/
structure Rule where
  stamp : Nat
  pattern : String
  style : Style
  feature : Feature
  language : Language
  compiled : Compiled

namespace Rule

/-- The number of the capture that marks what the rule styles. -/
def capture (rule : Rule) : Nat := rule.compiled.capture

/-- Compiles an entry of a language; without a style of its own it takes the default one. -/
def compile (compiler : Compiler) (supply : Supply) (language : Language) (feature : Feature)
    (default : Style) (entry : Entry) : Except LanguageError (Rule × Supply) :=
  match compiler language entry.pattern with
  | .error fault => .error (.invalidPattern language entry.pattern fault)
  | .ok compiled =>
    let (stamp, supply) := supply.take
    let style := match entry.style with
      | none => default
      | some name => ⟨name⟩
    .ok (⟨stamp, entry.pattern, style, feature, language, compiled⟩, supply)

/-- The rule in diagnostic output. -/
def describe (rule : Rule) : String :=
  "Rule \x7b language: " ++ rule.language.title ++ ", feature: " ++ rule.feature.name ++ ", pattern: "
    ++ Text.quoted rule.pattern ++ ", style: Style(" ++ rule.style.name ++ ") \x7d"

/-- The byte ranges that the rule marks in the tree of a text. -/
def ranges (rule : Rule) (tree : Tree) (text : List Char) : List (Nat × Nat) :=
  let textOf (node : Node) : List Char := Text.byteSlice text node.start node.stop
  (rule.compiled.query.captured textOf rule.capture tree.nodes).map
    (fun node => (node.start, node.stop))

end Rule

end Dimming
