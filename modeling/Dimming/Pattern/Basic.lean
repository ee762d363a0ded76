import Dimming.Text.Regex

/-!
# Patterns

A pattern describes nodes of a tree by kind, by the fields they fill and by the nodes inside them.
Patterns stand in a row, may be repeated or left out, and may demand that nothing named lies between
them. Captures name matched nodes; predicates ask about the text of captured nodes.

These are the patterns of tree-sitter 0.25 queries, as its documentation of the query syntax describes
them; the texts of refused predicates are those of its Rust binding. Of directives such as `set!` only
the arguments are looked at, and then they are dropped: no rule asks for them.
-/

set_option autoImplicit false

namespace Dimming

/-- What a pattern asks of a node itself. -/
inductive NodeTest where
  /-- Any node. -/
  | anything
  /-- Any named node. -/
  | anyNamed
  /-- A node for text outside the grammar. -/
  | error
  /-- A node for text that is missing; of one kind if it is given. -/
  | missing (kind : Option (String × Bool))
  /-- A node of one kind, named or anonymous. -/
  | kind (name : String) (named : Bool)
  /-- A node reached through a family of kinds; of one kind if it is given. -/
  | family (name : String) (member : Option (String × Bool))
  deriving DecidableEq, Repr

/-- What a pattern asks of one node and what it does with it. -/
structure NodeSpec where
  /-- The kind of node. -/
  test : NodeTest
  /-- The field that the node must fill. -/
  field : Option String
  /-- Fields that no node inside may fill. -/
  absent : List String
  /-- No named node may lie between the node and the one matched before it. -/
  anchored : Bool
  /-- No named node may follow the node inside its parent. -/
  last : Bool
  /-- The captures that name the node, by their numbers. -/
  captures : List Nat
  /-- The byte offset in the source of the pattern that a fault of this part is reported at. -/
  offset : Nat
  deriving DecidableEq, Repr

namespace NodeSpec

/-- The number of captures that can name one node of a pattern. -/
def captureLimit : Nat := 3

/-- Lets a capture name the node, unless it has as many names as it can have. -/
def addCapture (capture : Nat) (spec : NodeSpec) : NodeSpec :=
  if spec.captures.length < captureLimit then { spec with captures := spec.captures ++ [capture] }
  else spec

end NodeSpec

/-- A pattern. -/
inductive Pattern where
  /-- One node with patterns for the nodes inside it. -/
  | node (spec : NodeSpec) (items : List Pattern)
  /-- Patterns in a row. -/
  | group (items : List Pattern)
  /-- One of several patterns. -/
  | choice (options : List Pattern)
  /-- A pattern any number of times, at least once when `once` holds. -/
  | repeated (part : Pattern) (once : Bool)
  /-- A pattern or nothing. -/
  | optional (part : Pattern)

namespace Pattern

mutual

/-- The pattern may be passed over, so that what stands behind it is matched first. Of a choice the last
option decides. -/
def isSkippable : Pattern → Bool
  | .node _ _ => false
  | .group items => areSkippable items
  | .choice options => endsSkippable options
  | .repeated _ once => !once
  | .optional _ => true

/-- A whole row may be passed over. -/
def areSkippable : List Pattern → Bool
  | [] => true
  | first :: rest => isSkippable first && areSkippable rest

/-- The last of some options may be passed over. -/
def endsSkippable : List Pattern → Bool
  | [] => false
  | [last] => isSkippable last
  | _ :: rest => endsSkippable rest

end

mutual

/-- Changes what the pattern asks of the first node it matches. -/
def mapFirst (change : NodeSpec → NodeSpec) : Pattern → Pattern
  | .node spec items => .node (change spec) items
  | .group items => .group (mapHead change items)
  | .choice options => .choice (mapAll change options)
  | .repeated part once => .repeated (mapFirst change part) once
  | .optional part => .optional (mapFirst change part)

/-- Changes the patterns of a row that may be matched first. -/
def mapHead (change : NodeSpec → NodeSpec) : List Pattern → List Pattern
  | [] => []
  | first :: rest =>
    mapFirst change first :: if isSkippable first then mapHead change rest else rest

/-- Changes every pattern of a choice. -/
def mapAll (change : NodeSpec → NodeSpec) : List Pattern → List Pattern
  | [] => []
  | first :: rest => mapFirst change first :: mapAll change rest

end

end Pattern

/-- An argument of a predicate. -/
inductive Argument where
  /-- The nodes of a capture. -/
  | capture (index : Nat)
  /-- A text. -/
  | text (value : String)
  deriving DecidableEq, Repr

/-- A predicate as it is written: its name and its arguments. -/
structure Call where
  /-- The name, with the mark that ends it. -/
  name : String
  /-- The arguments. -/
  arguments : List Argument
  deriving DecidableEq, Repr

/-- A condition on the text of captured nodes. With `all` every node has to agree with `positive`,
otherwise one is enough. -/
inductive Predicate where
  | equalsText (capture : Nat) (value : String) (positive all : Bool)
  | equalsCapture (first second : Nat) (positive all : Bool)
  | matching (capture : Nat) (regex : Regex) (positive all : Bool)
  | among (capture : Nat) (values : List String) (positive : Bool)
  /-- A note for others, without effect on matching. -/
  | note

/-- Why predicate arguments are refused. -/
inductive PredicateFault where
  | wrongCount (name : String) (expected : String) (got : Nat)
  | firstNotCapture (name : String) (value : String)
  | secondNotText (name : String) (capture : String)
  | listNotText (name : String) (capture : String)
  | badRegex (source : String)
  | tooManyProperties (name : String) (got : Nat)
  | secondCapture (name : String) (capture : String)
  | thirdText (name : String) (value : String)
  | noKey (name : String)
  | noName (capture : String)
  deriving DecidableEq, Repr

/-- The wording of a refused predicate. -/
def PredicateFault.message : PredicateFault → String
  | .wrongCount name expected got =>
    "Wrong number of arguments to #" ++ name ++ " predicate. Expected " ++ expected ++ ", got "
      ++ toString got ++ "."
  | .firstNotCapture name value =>
    "First argument to #" ++ name ++ " predicate must be a capture name. Got literal \"" ++ value
      ++ "\"."
  | .secondNotText name capture =>
    "Second argument to #" ++ name ++ " predicate must be a literal. Got capture @" ++ capture ++ "."
  | .listNotText name capture =>
    "Arguments to #" ++ name ++ " predicate must be literals. Got capture @" ++ capture ++ "."
  | .badRegex source => "Invalid regex '" ++ source ++ "'"
  | .tooManyProperties name got =>
    "Wrong number of arguments to " ++ name ++ " predicate. Expected 1 to 3, got " ++ toString got
      ++ "."
  | .secondCapture name capture =>
    "Invalid arguments to " ++ name ++ " predicate. Unexpected second capture name @" ++ capture
  | .thirdText name value =>
    "Invalid arguments to " ++ name ++ " predicate. Unexpected third argument @" ++ value
  | .noKey name => "Invalid arguments to " ++ name ++ " predicate. Missing key argument"
  | .noName capture =>
    "Expected predicate to start with a function name. Got @" ++ capture ++ "."

/-- Why the source of a pattern is refused, with the byte offset of the fault. -/
inductive PatternFault where
  | malformed (offset : Nat)
  | unknownKind (offset : Nat)
  | unknownField (offset : Nat)
  | unknownCapture (offset : Nat)
  | impossible (offset : Nat)
  /-- A predicate of the pattern that starts in the given row. -/
  | predicate (row : Nat) (fault : PredicateFault)
  deriving DecidableEq, Repr

end Dimming
