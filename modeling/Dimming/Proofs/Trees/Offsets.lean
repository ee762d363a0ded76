import Dimming.Proofs.Patterns.Captured
import Dimming.Proofs.Text.Bytes

/-!
# Where nodes start and end

A tree keeps all characters of its text, and a node of it starts and ends where some of its parts do. So
the ranges of all nodes of a tree, however deep, lie on character boundaries of its text.
-/

set_option autoImplicit false

namespace Dimming

open Text

namespace Node

/-- A node and all nodes inside of it have a property. -/
inductive Throughout (P : Node → Prop) : Node → Prop where
  | mk {node : Node} (h : P node) (hchildren : ∀ child ∈ node.children, Throughout P child) :
      Throughout P node

/-- What holds throughout some nodes holds of every node inside of them. -/
theorem Inside.of_throughout {P : Node → Prop} {nodes : List Node} {node : Node}
    (h : Inside nodes node) (hall : ∀ root ∈ nodes, Throughout P root) : Throughout P node := by
  induction h with
  | root hmem => exact hall _ hmem
  | child _ hmem ih =>
    cases ih with
    | mk _ hchildren => exact hchildren _ hmem

/-- The range of a node lies on character boundaries of a text. -/
def Fits (text : List Char) (node : Node) : Prop :=
  IsBoundary text node.start ∧ IsBoundary text node.stop

end Node

namespace Tree

mutual

/-- A tree has as many bytes as its characters. -/
theorem byteLength_eq : ∀ tree : Tree, tree.byteLength = Text.byteLength tree.chars
  | .space _ => rfl
  | .hidden _ => rfl
  | .leaf _ _ => rfl
  | .branch _ parts => byteLengthAll_eq parts

/-- Trees that stand side by side have as many bytes as their characters. -/
theorem byteLengthAll_eq : ∀ trees : List Tree, byteLengthAll trees = Text.byteLength (charsAll trees)
  | [] => rfl
  | tree :: rest => by
    rw [byteLengthAll, charsAll, Text.byteLength_append, byteLength_eq tree, byteLengthAll_eq rest]

end

/-- The blanks that open a list of trees end at a boundary. -/
theorem isBoundary_leadingSpace (trees : List Tree) :
    IsBoundary (charsAll trees) (leadingSpace trees) := by
  induction trees with
  | nil => exact isBoundary_byteOffset [] 0
  | cons tree rest ih =>
    cases tree with
    | space text => exact ih.append_left text
    | hidden text => exact ⟨[], _, rfl, rfl⟩
    | leaf label text => exact ⟨[], _, rfl, rfl⟩
    | branch label parts => exact ⟨[], _, rfl, rfl⟩

end Tree

namespace Node

/-- The start of a text that stands between two others is a boundary of the whole. -/
theorem isBoundary_middle {text : List Char} {offset : Nat} (h : IsBoundary text offset)
    (before after : List Char) :
    IsBoundary (before ++ text ++ after) (Text.byteLength before + offset) :=
  (h.append_left before).append_right after

mutual

/-- The nodes of a tree lie on boundaries of the text around it. -/
theorem throughout_ofTree : ∀ (tree : Tree) (index : Nat) (before after : List Char),
    ∀ node ∈ (ofTree index (Text.byteLength before) tree).1,
      Throughout (Fits (before ++ tree.chars ++ after)) node
  | .space text, index, before, after => by
    intro node hmem
    cases hmem
  | .hidden text, index, before, after => by
    intro node hmem
    cases hmem
  | .leaf label text, index, before, after => by
    intro node hmem
    rw [ofTree] at hmem
    rw [List.mem_singleton.mp hmem]
    refine ⟨⟨?_, ?_⟩, ?_⟩
    · exact isBoundary_middle ⟨[], text, rfl, rfl⟩ before after
    · exact isBoundary_middle ⟨text, [], (List.append_nil text).symm, rfl⟩ before after
    · intro child hchild
      cases hchild
  | .branch label parts, index, before, after => by
    intro node hmem
    rw [ofTree] at hmem
    rw [List.mem_singleton.mp hmem]
    refine ⟨⟨?_, ?_⟩, ?_⟩
    · exact isBoundary_middle (Tree.isBoundary_leadingSpace parts) before after
    · have hend : IsBoundary (Tree.charsAll parts) (Tree.byteLengthAll parts) :=
        ⟨_, [], (List.append_nil _).symm, (Tree.byteLengthAll_eq parts).symm⟩
      exact isBoundary_middle hend before after
    · exact throughout_ofTrees parts (index + 1) before after

/-- The nodes of trees that stand side by side lie on boundaries of the text around them. -/
theorem throughout_ofTrees : ∀ (trees : List Tree) (index : Nat) (before after : List Char),
    ∀ node ∈ (ofTrees index (Text.byteLength before) trees).1,
      Throughout (Fits (before ++ Tree.charsAll trees ++ after)) node
  | [], index, before, after => by
    intro node hmem
    cases hmem
  | tree :: rest, index, before, after => by
    intro node hmem
    rw [ofTrees] at hmem
    rcases List.mem_append.mp hmem with hmem | hmem
    · have hfirst := throughout_ofTree tree index before (Tree.charsAll rest ++ after) node hmem
      rw [Tree.charsAll]
      simpa only [List.append_assoc] using hfirst
    · have hoffset : Text.byteLength before + tree.byteLength =
          Text.byteLength (before ++ tree.chars) := by
        rw [Text.byteLength_append, Tree.byteLength_eq]
      rw [hoffset] at hmem
      have hrest := throughout_ofTrees rest _ (before ++ tree.chars) after node hmem
      rw [Tree.charsAll]
      simpa only [List.append_assoc] using hrest

end

end Node

/-- All nodes of a tree, however deep, lie on character boundaries of its text. -/
theorem Tree.fits_of_inside {tree : Tree} {node : Node} (h : Node.Inside tree.nodes node) :
    node.Fits tree.chars := by
  have hall : ∀ root ∈ tree.nodes, Node.Throughout (Node.Fits tree.chars) root := by
    intro root hroot
    have hthrough := Node.throughout_ofTree tree 0 [] [] root hroot
    rwa [List.nil_append, List.append_nil] at hthrough
  cases h.of_throughout hall with
  | mk hfits _ => exact hfits

end Dimming
