import Dimming.Proofs.Editors.History

/-!
# What the documents of an editor inherit

Orders move the switch and the level of a document and leave its body alone, so the bodies on a shelf
come about by opening and by editing. A property of bodies that new documents have and that edits keep
is inherited: every document that is open in a session has it. One such property is that parsers are of
the document's own language and hold a tree.
-/

set_option autoImplicit false

namespace Dimming.Proofs.EditorHistory

/-- A property of bodies that new documents have, where those with a language are highlighted, and that
edits keep. -/
structure Inherited [ParseEngine] (P : DocumentBody → Prop) : Prop where
  plain : ∀ id buffer name, P (Document.ofBuffer id buffer name none).body
  lit : ∀ id buffer name language tree rules features level,
    ParseEngine.first? language buffer.chars = some tree →
      P ((Document.ofBuffer id buffer name (some language)).lit ⟨language, some tree, []⟩ rules
        features level).body
  edited : ∀ (document : Document) (outcome : Document.Outcome Unit), document.Edited outcome →
    P document.body → P outcome.2.body

/-- All open documents have a property. -/
def AllBodies (P : DocumentBody → Prop) (editor : Editor) : Prop :=
  ∀ document ∈ editor.shelf.documents, P document.body

namespace AllBodies

variable {P : DocumentBody → Prop} {editor : Editor}

/-- A document that is put in place of another has the property when the other documents have it. -/
theorem replace (h : AllBodies P editor) {after : Editor} {document : Document}
    (hdocument : P document.body) (hshelf : after.shelf = editor.shelf.replace document) :
    AllBodies P after := by
  intro other hother
  rw [hshelf] at hother
  rcases mem_replace hother with rfl | ⟨hmem, -⟩
  · exact hdocument
  · exact h other hmem

/-- Orders leave the bodies alone. -/
theorem give (h : AllBodies P editor) (id : DocumentId) (order : Order) :
    AllBodies P (order.give editor id) := by
  cases hget : editor.shelf.get? id with
  | none =>
    rw [Act.give_of_absent hget]
    exact h
  | some document =>
    obtain ⟨-, supply, hshelf⟩ := Act.give_of_present hget order
    have hbody : (order.obey editor.mode supply document).deliver.2.body = document.body :=
      order.body_obey editor.mode supply document
    exact h.replace (hbody ▸ h document (mem_of_get? hget).1) hshelf

/-- A built-in command is an order to the active document, if there is one. -/
theorem command (h : AllBodies P editor) (registry : CommandRegistry) (order : Order) :
    AllBodies P (registry.execute order.command editor).2 := by
  rw [Act.execute_command]
  cases editor.shelf.active with
  | none => exact h
  | some id => exact h.give id order

/-- What holds of the bodies of all open documents still does when one is closed. -/
theorem close (h : AllBodies P editor) (id : DocumentId) :
    AllBodies P (editor.closeDocument id).2 := by
  unfold Editor.closeDocument
  split
  · exact h
  · next document shelf hclose =>
    simp only [Shelf.close, Option.map_eq_some_iff] at hclose
    obtain ⟨_, -, hshelf⟩ := hclose
    cases hshelf
    exact fun other hother => h other (List.mem_filter.mp hother).1

/-- A change of one document that keeps a property keeps it for all documents. -/
theorem onDocument {α : Type} (h : AllBodies P editor) (id : DocumentId)
    (change : Document → Document.Outcome α)
    (hchange : ∀ document : Document, P document.body → P (change document).2.body) :
    AllBodies P (editor.onDocument id change).2 := by
  unfold Editor.onDocument
  split
  · exact h
  · next document hget =>
    have hbody : P (change document).2.deliver.2.body :=
      hchange document (h document (mem_of_get? hget).1)
    exact h.replace hbody rfl

/-- A document that is put on the shelf is switched at most before. -/
theorem shelve (h : AllBodies P editor) {document : Document} (hdocument : P document.body) :
    AllBodies P (editor.shelve document).2 := by
  obtain ⟨-, supply, hshelf⟩ := shelve_eq editor document
  intro other hother
  rw [hshelf] at hother
  rcases mem_add hother with rfl | hother
  · have hset : (editor.mode.set supply true document).1.body = document.body :=
      editor.mode.body_set supply true document
    split
    · exact hset ▸ hdocument
    · exact hdocument
  · exact h other hother

section Opening

variable [ParseEngine]

/-- A document is opened as a new one, highlighted if it has a language. -/
theorem opened (h : AllBodies P editor) {id : DocumentId} {buffer : Buffer} {name : String}
    (language : Option Language) (hplain : P (Document.ofBuffer id buffer name none).body)
    (hlit : ∀ language tree rules features level,
      ParseEngine.first? language buffer.chars = some tree →
        P ((Document.ofBuffer id buffer name (some language)).lit ⟨language, some tree, []⟩ rules
          features level).body) :
    AllBodies P (editor.addDocument (Document.ofBuffer id buffer name language)).2 := by
  cases language with
  | none => exact h.shelve hplain
  | some language =>
    rcases addDocument_cases editor id buffer name language with
      ⟨cause, -, hadd⟩ | ⟨rules, baseRules, supply, -, -, -, ⟨-, hadd⟩ | ⟨tree, hfirst, hadd⟩⟩
    · -- without base rules nothing is opened
      rw [hadd]
      exact h
    · rw [hadd]
      exact h
    · rw [hadd]
      have hfound : AllBodies P { editor with baseRules, supply } := h
      exact hfound.shelve
        (hlit language tree rules editor.baseFeatures editor.config.level hfirst)

/-- An inherited property is handed on when a document is added. -/
theorem addDocument (hP : Inherited P) (h : AllBodies P editor) (id : DocumentId) (buffer : Buffer)
    (name : String) (language : Option Language) :
    AllBodies P (editor.addDocument (Document.ofBuffer id buffer name language)).2 :=
  h.opened language (hP.plain id buffer name) (hP.lit id buffer name)

/-- Opening a file opens a document, or makes one active that is open already. -/
theorem openFile (hP : Inherited P) (h : AllBodies P editor) (disk : Disk) (path : String) :
    AllBodies P (editor.openFile disk path).2 := by
  unfold Editor.openFile
  split
  · intro document hmem
    unfold Shelf.activate at hmem
    split at hmem <;> exact h document hmem
  · unfold Document.ofFile
    cases Buffer.ofFile disk path with
    | error cause => exact h
    | ok buffer => exact addDocument hP h _ buffer _ _

/-- Every act hands an inherited property on. -/
theorem perform (hP : Inherited P) (h : AllBodies P editor) (act : Act) :
    AllBodies P (act.perform editor) := by
  cases act with
  | openFile disk path => exact openFile hP h disk path
  | openText text language => exact addDocument hP h _ (Buffer.ofText text) _ language
  | close id => exact h.close id
  | give id order => exact h.give id order
  | command registry order => exact h.command registry order
  | insert id index text =>
    exact h.onDocument id _ (fun document => hP.edited document _ (document.edited_insert index text))
  | delete id start stop =>
    exact h.onDocument id _ (fun document => hP.edited document _ (document.edited_delete start stop))

/-- Every run hands an inherited property on. -/
theorem run (hP : Inherited P) {session : Session} (h : AllBodies P session.editor)
    (acts : List Act) : AllBodies P (session.run acts).editor := by
  induction acts generalizing session with
  | nil => exact h
  | cons act acts ih => exact ih (perform hP h act)

end Opening

end AllBodies

/-- An editor that was just built has no document. -/
theorem allBodies_of_ofConfig {config : Config} {compiler : Compiler} {supply : Supply}
    {start : Editor} (h : Editor.ofConfig config compiler supply = .ok start)
    (P : DocumentBody → Prop) : AllBodies P start := by
  unfold Editor.ofConfig at h
  split at h
  · cases h
  · cases h
    intro document hmem
    cases hmem

/-! ## Parsers that hold trees -/

/-- Every parser is of the language of its document, and holds a tree. -/
def Equipped (body : DocumentBody) : Prop :=
  ∀ parser ∈ body.parsers, body.language = some parser.language ∧ parser.tree.isSome = true

/-- Parsers are of the document's language and hold trees, from the opening on and after every edit. -/
theorem inherited_equipped [ParseEngine] : Inherited Equipped where
  plain id buffer name := by
    intro parser hparser
    cases hparser
  lit id buffer name language tree rules features level _ := by
    intro parser hparser
    rw [List.mem_singleton.mp hparser]
    exact ⟨rfl, rfl⟩
  edited document outcome hedited hdocument := by
    intro parser hparser
    obtain ⟨former, hformer, hlanguage, htree⟩ := hedited.exists_former hparser
    obtain ⟨hl, ht⟩ := hdocument former hformer
    exact ⟨hedited.language_eq.trans (hlanguage ▸ hl), htree ht⟩

end Dimming.Proofs.EditorHistory
