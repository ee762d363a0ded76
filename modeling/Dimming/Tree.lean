import Dimming.Text.Lines

/-!
# Concrete trees

A tree keeps every character of the text it was read from: blanks between tokens, tokens that form no
node, tokens that do, and nodes with parts. Reading its characters off from left to right gives the
text back. A node is a tree seen from outside: its label, its range of bytes and the nodes inside it.
-/

set_option autoImplicit false

namespace Dimming

/-- Whether a node was read from the text as the grammar says. -/
inductive Status where
  /-- The grammar accounts for it. -/
  | sound
  /-- It holds text that no rule of the grammar accounts for. -/
  | error
  /-- It stands for a token that the grammar asks for and the text lacks. -/
  | missing
  deriving DecidableEq, Repr

/-- What is known of a node besides its range and its parts. -/
structure Label where
  /-- The kind of the node; for an anonymous token its spelling. -/
  kind : String
  /-- Named nodes carry meaning; anonymous ones are keywords and punctuation. -/
  named : Bool
  /-- Whether the grammar accounts for the node. -/
  status : Status
  /-- Extras, such as comments, may stand anywhere between tokens. -/
  extra : Bool
  /-- The fields of the parent that the node fills. -/
  fields : List String
  /-- The families of kinds through which the parent reached the node, innermost first. -/
  families : List String
  deriving DecidableEq, Repr

namespace Label

/-- The label of a named node. -/
def ofKind (kind : String) : Label := ⟨kind, true, .sound, false, [], []⟩

/-- The label of an anonymous token. -/
def ofToken (text : String) : Label := ⟨text, false, .sound, false, [], []⟩

/-- The label of an extra. -/
def ofExtra (kind : String) : Label := ⟨kind, true, .sound, true, [], []⟩

/-- The label of text outside the grammar. -/
def error : Label := ⟨"ERROR", true, .error, false, [], []⟩

/-- The label of an anonymous token that the text lacks. -/
def ofMissing (text : String) : Label := ⟨text, false, .missing, false, [], []⟩

end Label

/-- A piece of text with its structure. -/
inductive Tree where
  /-- Blanks between tokens. -/
  | space (text : List Char)
  /-- A token that forms no node. -/
  | hidden (text : List Char)
  /-- A token that forms a node. -/
  | leaf (label : Label) (text : List Char)
  /-- A node with its parts. -/
  | branch (label : Label) (parts : List Tree)

namespace Tree

mutual

/-- The characters of a tree, from left to right. -/
def chars : Tree → List Char
  | .space text => text
  | .hidden text => text
  | .leaf _ text => text
  | .branch _ parts => charsAll parts

/-- The characters of trees that stand side by side. -/
def charsAll : List Tree → List Char
  | [] => []
  | tree :: rest => chars tree ++ charsAll rest

end

mutual

/-- The number of bytes of a tree. -/
def byteLength : Tree → Nat
  | .space text => Text.byteLength text
  | .hidden text => Text.byteLength text
  | .leaf _ text => Text.byteLength text
  | .branch _ parts => byteLengthAll parts

/-- The number of bytes of trees that stand side by side. -/
def byteLengthAll : List Tree → Nat
  | [] => 0
  | tree :: rest => byteLength tree + byteLengthAll rest

end

mutual

/-- Some part of the tree is an error or stands for missing text. -/
def hasError : Tree → Bool
  | .space _ => false
  | .hidden _ => false
  | .leaf label _ => label.status != .sound
  | .branch label parts => label.status != .sound || hasErrorAny parts

/-- Some tree of a list has an error. -/
def hasErrorAny : List Tree → Bool
  | [] => false
  | tree :: rest => hasError tree || hasErrorAny rest

end

/-- Blanks and extras, which belong to the outermost node that they stand inside of. -/
def isPadding : Tree → Bool
  | .space _ => true
  | .hidden _ => false
  | .leaf label _ => label.extra
  | .branch label _ => label.extra

/-- Applies a change to the label of a tree that forms a node. -/
def mapLabel (change : Label → Label) : Tree → Tree
  | .leaf label text => .leaf (change label) text
  | .branch label parts => .branch (change label) parts
  | tree => tree

/-- The kind of a tree that forms a node. -/
def kind? : Tree → Option String
  | .leaf label _ => some label.kind
  | .branch label _ => some label.kind
  | _ => none

/-- The number of bytes of the blanks that open a list of trees. -/
def leadingSpace : List Tree → Nat
  | .space text :: rest => Text.byteLength text + leadingSpace rest
  | _ => 0

end Tree

/-- A node: its place in reading order, its label, its range of bytes and the nodes inside it. -/
inductive Node where
  | mk (index : Nat) (label : Label) (start stop : Nat) (children : List Node)

namespace Node

/-- The place in reading order, parents before children; it tells apart nodes of one tree. -/
def index : Node → Nat
  | .mk index _ _ _ _ => index

/-- The label. -/
def label : Node → Label
  | .mk _ label _ _ _ => label

/-- The byte offset at which the node starts. -/
def start : Node → Nat
  | .mk _ _ start _ _ => start

/-- The byte offset at which the node ends. -/
def stop : Node → Nat
  | .mk _ _ _ stop _ => stop

/-- The nodes directly inside. -/
def children : Node → List Node
  | .mk _ _ _ _ children => children

mutual

/-- The nodes of a tree that starts at byte `offset`, numbered from `index`, with the next number. -/
def ofTree (index offset : Nat) : Tree → List Node × Nat
  | .space _ => ([], index)
  | .hidden _ => ([], index)
  | .leaf label text => ([.mk index label offset (offset + Text.byteLength text) []], index + 1)
  | .branch label parts =>
    let (children, next) := ofTrees (index + 1) offset parts
    let start := offset + Tree.leadingSpace parts
    let stop := offset + Tree.byteLengthAll parts
    ([.mk index label start stop children], next)

/-- The nodes of trees that stand side by side. -/
def ofTrees (index offset : Nat) : List Tree → List Node × Nat
  | [] => ([], index)
  | tree :: rest =>
    let (first, index) := ofTree index offset tree
    let (more, index) := ofTrees index (offset + tree.byteLength) rest
    (first ++ more, index)

end

end Node

namespace Tree

/-- The nodes that a whole tree consists of: one, when the tree forms a node. -/
def nodes (tree : Tree) : List Node :=
  (Node.ofTree 0 0 tree).1

end Tree

end Dimming
