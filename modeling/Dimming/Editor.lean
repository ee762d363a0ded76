import Dimming.Config
import Dimming.Shelf

/-!
# Editors

An editor opens documents with base highlighting, switches the overlay on them and announces on its
bus what happens. Every operation gives its answer or the reason why it failed, together with the
editor afterwards. Base rules are compiled once for each language and shared by its documents.
-/

set_option autoImplicit false

namespace Dimming

/-- Why an editor operation failed. -/
inductive EditorError where
  | documentNotFound (id : DocumentId)
  | noActiveDocument
  | buffer (cause : BufferError)
  | language (cause : LanguageError)
  | config (cause : ConfigError)
  | commandNotFound (name : String)
  deriving DecidableEq, Repr

/-- The wording of an editor error. -/
def EditorError.message : EditorError → String
  | .documentNotFound id => "Document not found: " ++ toString id.number
  | .noActiveDocument => "No active document"
  | .buffer cause => (DocumentError.buffer cause).message
  | .language cause => (DocumentError.language cause).message
  | .config cause => "Config error: " ++ cause.message
  | .commandNotFound name => "Command not found: " ++ name

/-- The failure of a document operation as a failure of the editor. -/
def EditorError.ofDocument : DocumentError → EditorError
  | .buffer cause => .buffer cause
  | .language cause => .language cause

/-- The open documents with what they share. -/
structure Editor where
  shelf : Shelf
  config : Config
  mode : Switch
  baseRules : List (Language × Shared RuleSet)
  baseFeatures : Shared FeatureList
  bus : Bus
  supply : Supply
  nextDocument : Nat

namespace Editor

/-- The answer of an operation, and the editor after it. -/
abbrev Outcome (α : Type) := Except EditorError α × Editor

/-- An editor with the overlays of some settings. -/
def ofConfig (config : Config) (compiler : Compiler) (supply : Supply) :
    Except EditorError Editor :=
  match config.buildRegistry compiler supply with
  | .error cause => .error (.config cause)
  | .ok (registry, supply) =>
    let (baseFeatures, supply) := supply.share Tables.baseFeatures
    .ok {
      shelf := .empty
      config
      mode := ⟨⟨registry, ⟨config.feature⟩⟩, config.lighter⟩
      baseRules := []
      baseFeatures
      bus := .fresh
      supply
      nextDocument := 0 }

/-- Announces an event. -/
def emit (editor : Editor) (event : Event) : Editor :=
  { editor with bus := editor.bus.emit event }

/-- Delivers what a document has announced and puts it in place of its former self. -/
def settle (editor : Editor) (document : Document) : Editor :=
  let (events, document) := document.deliver
  { editor with shelf := editor.shelf.replace document, bus := editor.bus.emitAll events }

/-- A document by its identity. -/
def document (editor : Editor) (id : DocumentId) : Except EditorError Document :=
  match editor.shelf.get? id with
  | none => .error (.documentNotFound id)
  | some document => .ok document

/-- The active document. -/
def activeDocument (editor : Editor) : Except EditorError DocumentId :=
  match editor.shelf.active with
  | none => .error .noActiveDocument
  | some id => .ok id

/-- The base rules of a language, compiled when they are first asked for. -/
def rulesFor (editor : Editor) (language : Language) : Outcome (Shared RuleSet) :=
  match editor.baseRules.find? (fun entry => decide (entry.1 = language)) with
  | some entry => (.ok entry.2, editor)
  | none =>
    match Tables.baseRules editor.supply language with
    | .error cause => (.error (.language cause), editor)
    | .ok (set, supply) =>
      let (shared, supply) := supply.share set
      (.ok shared,
        { editor with baseRules := editor.baseRules ++ [(language, shared)], supply })

/-- Puts a document on the shelf, once its highlighting is set up. -/
def shelve (editor : Editor) (document : Document) : DocumentId × Editor :=
  let (document, supply) :=
    if editor.config.enableByDefault then editor.mode.set editor.supply true document
    else (document, editor.supply)
  let (events, document) := document.deliver
  let editor := { editor with
    shelf := editor.shelf.add document
    bus := editor.bus.emitAll events
    supply
    nextDocument := editor.nextDocument + 1 }
  (document.id, editor.emit (.documentOpened document.id))

/-- Adds a document with base highlighting, and with the overlay when the settings ask for it. -/
def addDocument [ParseEngine] (editor : Editor) (document : Document) : Outcome DocumentId :=
  let document := document.listen
  match document.language with
  | none =>
    let (id, editor) := editor.shelve document
    (.ok id, editor)
  | some language =>
    match editor.rulesFor language with
    | (.error cause, editor) => (.error cause, editor)
    | (.ok rules, editor) =>
      match document.enableHighlighting rules editor.baseFeatures editor.config.level with
      | (.error cause, _) => (.error (.ofDocument cause), editor)
      | (.ok (), document) =>
        let (id, editor) := editor.shelve document
        (.ok id, editor)

/-- The identity of the next document. -/
def freshId (editor : Editor) : DocumentId := ⟨editor.nextDocument⟩

/-- Opens a text. -/
def openText [ParseEngine] (editor : Editor) (text : String) (language : Option Language) :
    Outcome DocumentId :=
  editor.addDocument (Document.ofText editor.freshId text language)

/-- Opens a file. A file that is open already becomes active and is not read again. -/
def openFile [ParseEngine] (editor : Editor) (disk : Disk) (path : String) : Outcome DocumentId :=
  match editor.shelf.findByPath path with
  | some id => (.ok id, { editor with shelf := editor.shelf.activate id })
  | none =>
    match Document.ofFile editor.freshId disk path with
    | .error cause => (.error (.buffer cause), editor)
    | .ok document => editor.addDocument document

/-- Closes a document. -/
def closeDocument (editor : Editor) (id : DocumentId) : Outcome Unit :=
  match editor.shelf.close id with
  | none => (.error (.documentNotFound id), editor)
  | some (_, shelf) => (.ok (), { editor with shelf }.emit (.documentClosed id))

/-- Runs an operation on a document and keeps the document as it is afterwards, also when the operation
fails. -/
def onDocument {α : Type} (editor : Editor) (id : DocumentId)
    (change : Document → Document.Outcome α) : Outcome α :=
  match editor.shelf.get? id with
  | none => (.error (.documentNotFound id), editor)
  | some document =>
    let (answer, document) := change document
    (answer.mapError .ofDocument, editor.settle document)

/-- Puts the switch of a document on or off. -/
def setOverlay (editor : Editor) (id : DocumentId) (on : Bool) : Outcome Bool :=
  match editor.shelf.get? id with
  | none => (.error (.documentNotFound id), editor)
  | some document =>
    let (document, supply) := editor.mode.set editor.supply on document
    (.ok on, ({ editor with supply }.settle document).emit (.overlayToggled id on))

/-- Turns the switch of a document over and tells where it is now. -/
def toggleOverlay (editor : Editor) (id : DocumentId) : Outcome Bool :=
  match editor.shelf.get? id with
  | none => (.error (.documentNotFound id), editor)
  | some document =>
    let (on, document, supply) := editor.mode.toggle editor.supply document
    (.ok on, ({ editor with supply }.settle document).emit (.overlayToggled id on))

/-- What the status line shows for a document. -/
def statusLabel (editor : Editor) (id : DocumentId) : Except EditorError (Option String) :=
  match editor.document id with
  | .error cause => .error cause
  | .ok document => .ok (editor.mode.statusLabel document)

/-- Changes the highlight level of a document; announced only when there is highlighting. -/
def setLevel (editor : Editor) (id : DocumentId) (level : Nat) : Outcome Unit :=
  match editor.shelf.get? id with
  | none => (.error (.documentNotFound id), editor)
  | some document =>
    let (changed, document) := document.setLevel level
    let editor := editor.settle document
    (.ok (), if changed then editor.emit (.levelChanged id level) else editor)

/-- The spans of a document. -/
def spans (editor : Editor) (id : DocumentId) : Except EditorError (List Span) :=
  match editor.document id with
  | .error cause => .error cause
  | .ok document => .ok document.spans

/-- Inserts a text into a document. -/
def insert [ParseEngine] (editor : Editor) (id : DocumentId) (index : Nat) (text : String) :
    Outcome Unit :=
  editor.onDocument id (fun document => document.insert index text)

/-- Removes characters of a document. -/
def delete [ParseEngine] (editor : Editor) (id : DocumentId) (start stop : Nat) : Outcome Unit :=
  editor.onDocument id (fun document => document.delete start stop)

/-- Whether a document wants to be repainted; asking takes the wish back. -/
def takeRepaint (editor : Editor) (id : DocumentId) : Outcome Bool :=
  editor.onDocument id (fun document => (.ok document.takeRepaint.1, document.takeRepaint.2))

end Editor

end Dimming
