import Dimming.Grammar.Form
import Dimming.Pattern.Read

/-!
# The names of a grammar

The kinds, tokens, fields and families that a grammar can put into its trees. Patterns over a language
may use these names and no others.

tree-sitter lists these names in the node types of a grammar. Here they are collected from the forms, and
nothing else of the node types is kept.
-/

set_option autoImplicit false

namespace Dimming

namespace Vocabulary

/-- The vocabulary without names. -/
def empty : Vocabulary := ⟨[], [], [], []⟩

/-- Adds a kind. -/
def addKind (vocabulary : Vocabulary) (kind : String) : Vocabulary :=
  if vocabulary.kinds.contains kind then vocabulary
  else { vocabulary with kinds := kind :: vocabulary.kinds }

/-- Adds an anonymous token. -/
def addToken (vocabulary : Vocabulary) (spelling : String) : Vocabulary :=
  if vocabulary.tokens.contains spelling then vocabulary
  else { vocabulary with tokens := spelling :: vocabulary.tokens }

/-- Adds a field. -/
def addField (vocabulary : Vocabulary) (field : String) : Vocabulary :=
  if vocabulary.fields.contains field then vocabulary
  else { vocabulary with fields := field :: vocabulary.fields }

end Vocabulary

namespace Tree

mutual

/-- Adds the names of a tree to a vocabulary. -/
def addNames (vocabulary : Vocabulary) : Tree → Vocabulary
  | .leaf label _ =>
    let vocabulary := label.fields.foldl Vocabulary.addField vocabulary
    if label.named then vocabulary.addKind label.kind else vocabulary.addToken label.kind
  | .branch label parts => addNamesAll (vocabulary.addKind label.kind) parts
  | _ => vocabulary

/-- Adds the names of several trees to a vocabulary. -/
def addNamesAll (vocabulary : Vocabulary) : List Tree → Vocabulary
  | [] => vocabulary
  | tree :: rest => addNamesAll (addNames vocabulary tree) rest

end

end Tree

namespace Form

mutual

/-- Adds the names of a form to a vocabulary. What a form only looks ahead to forms no node, and the
node of a form under another kind keeps no kind of its own. -/
def addNames (vocabulary : Vocabulary) : Form → Vocabulary
  | .lit text => vocabulary.addToken text
  | .op text _ => vocabulary.addToken text
  | .closing text => vocabulary.addToken text
  | .leaf kind _ => vocabulary.addKind kind
  | .seq parts => addNamesAll vocabulary parts
  | .alt choices => addNamesAll vocabulary choices
  | .opt part => addNames vocabulary part
  | .many part => addNames vocabulary part
  | .field name part => addNames (vocabulary.addField name) part
  | .node kind part => addNames (vocabulary.addKind kind) part
  | .retitle kind named part =>
    addNamesInside (if named then vocabulary.addKind kind else vocabulary.addToken kind) part
  | .glued part => addNames vocabulary part
  | .nest part => addNames vocabulary part
  | .bare part => addNames vocabulary part
  | _ => vocabulary

/-- Adds the names of several forms to a vocabulary. -/
def addNamesAll (vocabulary : Vocabulary) : List Form → Vocabulary
  | [] => vocabulary
  | form :: rest => addNamesAll (addNames vocabulary form) rest

/-- Adds the names below the outermost node of a form. -/
def addNamesInside (vocabulary : Vocabulary) : Form → Vocabulary
  | .node _ part => addNames vocabulary part
  | .alt choices => addNamesInsideAll vocabulary choices
  | .seq parts => addNamesInsideAll vocabulary parts
  | .glued part => addNamesInside vocabulary part
  | _ => vocabulary

/-- Adds the names below the outermost nodes of several forms. -/
def addNamesInsideAll (vocabulary : Vocabulary) : List Form → Vocabulary
  | [] => vocabulary
  | form :: rest => addNamesInsideAll (addNamesInside vocabulary form) rest

end

end Form

namespace Grammar

/-- The names that the trees of a grammar can hold. -/
def vocabulary (grammar : Grammar) : Vocabulary :=
  let ofForms := grammar.definitions.foldl
    (fun vocabulary definition =>
      definition.tails.foldl
        (fun vocabulary tail =>
          let vocabulary := (vocabulary.addKind tail.kind)
          let vocabulary := match tail.field with
            | some field => vocabulary.addField field
            | none => vocabulary
          tail.body.addNames vocabulary)
        (definition.form.addNames vocabulary))
    (grammar.start.addNames (Vocabulary.empty.addKind grammar.root))
  let withExtras := grammar.extras.foldl
    (fun vocabulary extra => extra.samples.foldl
      (fun vocabulary sample => (extra.build sample.toList).addNames vocabulary)
      (vocabulary.addKind extra.kind)) ofForms
  { withExtras with families := grammar.families.map (·.1) }

end Grammar

end Dimming
