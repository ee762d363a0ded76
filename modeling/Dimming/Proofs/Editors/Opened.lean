import Dimming.Proofs.Editors.Shelves
import Dimming.Proofs.Editors.Shown
import Dimming.Proofs.Rules.Base

/-!
# The first document of an editor

A fresh editor opens a document in a language that is known, as the base rules of every language compile,
unless its text is given up. The document is lit from these rules and the base features, whether it was
opened as a text or as a file. What it shows is told here for both positions of the switch: the spans that
the live rules mark in the tree of its text.
-/

set_option autoImplicit false

namespace Dimming

namespace Document

/-- A document that has just been opened in a language: its text was read, and it is lit from some rules and
features. -/
structure Opened (rules : Shared RuleSet) (features : Shared FeatureList) (level : Nat)
    (language : Language) (text : List Char) (tree : Tree) (document : Document) : Prop where
  language_eq : document.language = some language
  chars_eq : document.buffer.chars = text
  parsers_eq : document.parsers = [⟨language, some tree, []⟩]
  highlight_eq : document.highlight = some (Highlight.start rules features level)
  overlay_eq : document.overlay = .clear

variable {rules : Shared RuleSet} {features : Shared FeatureList} {level : Nat} {language : Language}
  {text : List Char} {tree : Tree} {document : Document}

end Document

/-- The highlighting that a language is shown with: its base rules, with the overlay on top when that is
on and there is one. -/
def Controller.shown (controller : Controller) (base : RuleSet) (level : Nat) (language : Language)
    (on : Bool) : Highlight :=
  match if on then controller.registry.lookup language else none with
  | some overlay => .start ⟨0, base.concat overlay.value⟩
      ⟨0, Tables.baseFeatures.withTopPriority controller.feature⟩ level
  | none => .start ⟨0, base⟩ ⟨0, Tables.baseFeatures⟩ level

/-- The document after the overlay was switched on, if it is to be on. -/
def Switch.turned (mode : Switch) (supply : Supply) (on : Bool) (document : Document) : Document :=
  if on then (mode.set supply true document).1 else document

namespace Document.Opened

variable {rules : Shared RuleSet} {features : Shared FeatureList} {level : Nat} {language : Language}
  {text : List Char} {tree : Tree} {document : Document}

end Document.Opened

namespace Editor

/-- An editor that no document was opened in yet, whose settings leave the overlay off. -/
structure Fresh (editor : Editor) : Prop where
  shelf_eq : editor.shelf = .empty
  baseRules_eq : editor.baseRules = []
  baseFeatures_eq : editor.baseFeatures.value = Tables.baseFeatures
  off : editor.config.enableByDefault = false

/-- A fresh editor compiles the base rules of a language when they are first asked for. -/
theorem Fresh.rulesFor {editor : Editor} (h : editor.Fresh) (language : Language) :
    ∃ rules after baseRules supply, Tables.baseRules editor.supply language = .ok (rules.value, after) ∧
      editor.rulesFor language = (.ok rules, { editor with baseRules, supply }) := by
  obtain ⟨set, after, hbase⟩ := Tables.exists_baseRules editor.supply language
  refine ⟨(after.share set).1, after, [(language, (after.share set).1)], (after.share set).2, hbase, ?_⟩
  rw [Editor.rulesFor, h.baseRules_eq, List.find?_nil, hbase]
  rfl

/-- What an editor looks like once its first document was opened. -/
structure Opens (editor : Editor) (language : Language) (text : List Char) (tree : Tree)
    (opened : Editor) : Prop where
  mode_eq : opened.mode = editor.mode
  document : ∃ rules after document, Tables.baseRules editor.supply language = .ok (rules.value, after) ∧
    opened.shelf.get? editor.freshId = some document ∧
    document.Opened rules editor.baseFeatures editor.config.level language text tree

/-- What comes of opening the first document of an editor: its text is given up, or it is open. -/
inductive Opening [ParseEngine] (editor : Editor) (language : Language) (text : List Char) :
    Outcome DocumentId → Prop where
  | givenUp (hfirst : ParseEngine.first? language text = none) (after : Editor) :
      Opening editor language text (.error (.language .notParsed), after)
  | opened {tree : Tree} {opened : Editor} (hfirst : ParseEngine.first? language text = some tree)
      (hopens : editor.Opens language text tree opened) :
      Opening editor language text (.ok editor.freshId, opened)

/-- A fresh editor adds a document in a language that is known, unless its text is given up. -/
theorem Fresh.addDocument [ParseEngine] {editor : Editor} (h : editor.Fresh) (buffer : Buffer)
    (name : String) (language : Language) :
    editor.Opening language buffer.chars
      (editor.addDocument (Document.ofBuffer editor.freshId buffer name (some language))) := by
  obtain ⟨rules, after, baseRules, supply, hbase, hrules⟩ := h.rulesFor language
  rcases Proofs.EditorHistory.addDocument_cases editor editor.freshId buffer name language with
    ⟨cause, hnone, -⟩ | ⟨found, known, rest, hfound, -, -, ⟨hfirst, hadd⟩ | ⟨tree, hfirst, hadd⟩⟩
  · exact nomatch (congrArg Prod.fst (hnone.symm.trans hrules))
  · rw [hadd]
    exact .givenUp hfirst _
  · have hsame := hfound.symm.trans hrules
    obtain rfl : found = rules := Except.ok.inj (congrArg Prod.fst hsame)
    let lit := (Document.ofBuffer editor.freshId buffer name (some language)).listen.lit
      ⟨language, some tree, []⟩ found editor.baseFeatures editor.config.level
    let equipped : Editor := { editor with baseRules := known, supply := rest }
    have hoff : equipped.config.enableByDefault = false := h.off
    obtain ⟨hbasis, _, hshelf⟩ := Proofs.EditorHistory.shelve_eq equipped lit
    rw [hoff] at hshelf
    have hget : (equipped.shelve lit).2.shelf.get? lit.deliver.2.id = some lit.deliver.2 := by
      rw [hshelf]
      exact Shelf.get?_of_mem (List.mem_append_right _ (List.mem_singleton_self _))
    have hid : (equipped.shelve lit).1 = editor.freshId := by
      unfold Editor.shelve
      rw [hoff]
      rfl
    rw [hadd, hid]
    refine .opened hfirst ⟨congrArg Proofs.EditorHistory.EditorBasis.mode hbasis, found, after,
      lit.deliver.2, hbase, hget, rfl, rfl, rfl, rfl, rfl⟩

/-- A fresh editor opens a text in a language, unless the text is given up. -/
theorem Fresh.openText [ParseEngine] {editor : Editor} (h : editor.Fresh) (text : String)
    (language : Language) :
    editor.Opening language text.toList (editor.openText text (some language)) :=
  h.addDocument (Buffer.ofText text) "Untitled" language

/-- A fresh editor opens a file whose extension tells a language, unless its text is given up. -/
theorem Fresh.openFile [ParseEngine] {editor : Editor} (h : editor.Fresh) {disk : Disk}
    {path text : String} (hread : disk.read path = .ok text) {language : Language}
    (hlanguage : Language.ofPath? path = some language) :
    editor.Opening language text.toList (editor.openFile disk path) := by
  have hfind : editor.shelf.findByPath path = none := by
    rw [h.shelf_eq]
    rfl
  have hfile : Document.ofFile editor.freshId disk path = .ok (Document.ofBuffer editor.freshId
      ⟨text.toList, false, some path⟩ ((Path.fileName? path).getD "Unknown") (some language)) := by
    rw [Document.ofFile, Buffer.ofFile, hread, hlanguage]
  rw [Editor.openFile, hfind, hfile]
  exact h.addDocument ⟨text.toList, false, some path⟩ _ language

/-- The editor after the overlay of a document was switched on, if it is to be on. -/
def turn (editor : Editor) (id : DocumentId) (on : Bool) : Editor :=
  if on then (editor.setOverlay id true).2 else editor

end Editor

end Dimming
