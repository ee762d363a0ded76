import Dimming.Event
import Dimming.Overlay
import Dimming.Parser

/-!
# Documents

A document is a buffer with a name, perhaps a language, and what highlighting needs: a parser, the live
rules and features, and the overlay's record. It is a host for the overlay. A document notes when it
wants to be repainted and, once someone listens, keeps the announcements that are yet to be delivered.
Operations that can fail give their answer together with the document afterwards: an edit of which the
parser gives up the text has changed the text all the same.
-/

set_option autoImplicit false

namespace Dimming

/-- Why a document operation failed. -/
inductive DocumentError where
  | buffer (cause : BufferError)
  | language (cause : LanguageError)
  deriving DecidableEq, Repr

/-- The wording of a document error. -/
def DocumentError.message : DocumentError → String
  | .buffer cause => "Buffer error: " ++ cause.message
  | .language cause => "Syntax error: " ++ cause.message

/-- An open text. -/
structure Document where
  id : DocumentId
  buffer : Buffer
  name : String
  language : Option Language
  /-- The parsers; none while highlighting is off. -/
  parsers : List Parser
  /-- The live rules and features; none while highlighting is off. -/
  highlight : Option Highlight
  /-- What the overlay keeps. -/
  overlay : OverlayRecord
  /-- A repaint was asked for since the last time someone looked. -/
  repaintPending : Bool
  /-- The announcements that are yet to be delivered, oldest first; none while nobody listens. -/
  outbox : Option (List Event)

namespace Document

/-- The answer of an operation, and the document after it. -/
abbrev Outcome (α : Type) := Except DocumentError α × Document

/-- A document over a buffer, without highlighting. -/
def ofBuffer (id : DocumentId) (buffer : Buffer) (name : String) (language : Option Language) :
    Document :=
  ⟨id, buffer, name, language, [], none, .clear, false, none⟩

/-- A document without a file. -/
def ofText (id : DocumentId) (text : String) (language : Option Language) : Document :=
  ofBuffer id (Buffer.ofText text) "Untitled" language

/-- Opens a file; its extension tells the language. -/
def ofFile (id : DocumentId) (disk : Disk) (path : String) : Except BufferError Document :=
  match Buffer.ofFile disk path with
  | .error cause => .error cause
  | .ok buffer =>
    .ok (ofBuffer id buffer ((Path.fileName? path).getD "Unknown") (Language.ofPath? path))

/-- Starts to keep announcements. -/
def listen (document : Document) : Document :=
  { document with outbox := some (document.outbox.getD []) }

/-- Hands over the announcements that were kept. -/
def deliver (document : Document) : List Event × Document :=
  (document.outbox.getD [], { document with outbox := document.outbox.map (fun _ => []) })

/-- Asks for a repaint and announces it. -/
def requestRepaint (document : Document) : Document :=
  { document with
    repaintPending := true
    outbox := document.outbox.map (· ++ [.repaintRequested document.id]) }

/-- Whether a repaint was asked for; asking takes the wish back. -/
def takeRepaint (document : Document) : Bool × Document :=
  (document.repaintPending, { document with repaintPending := false })

/-- Turns highlighting on, in place of any that was on; without a language it stays off. Nothing changes
when the text cannot be parsed. -/
def enableHighlighting [ParseEngine] (document : Document) (rules : Shared RuleSet)
    (features : Shared FeatureList) (level : Nat) : Outcome Unit :=
  match document.language with
  | none => (.ok (), document)
  | some language =>
    match Parser.ofLanguage language with
    | .error cause => (.error (.language cause), document)
    | .ok parser =>
      match parser.parse document.buffer.chars with
      | (.error cause, _) => (.error (.language cause), document)
      | (.ok (), parser) =>
        (.ok (), { document with
          parsers := [parser]
          highlight := some (Highlight.start rules features level) }.requestRepaint)

/-- Brings the trees up to date after an edit, and asks for a repaint once all of them are. An edit that
changes nothing needs none of it. -/
def reparse [ParseEngine] (document : Document) (edit : Edit) : Outcome Unit :=
  if document.parsers.isEmpty || edit.isEmpty then (.ok (), document)
  else
    match Parser.parseAllAfter edit document.buffer.chars document.parsers with
    | (.error cause, parsers) => (.error (.language cause), { document with parsers })
    | (.ok (), parsers) => (.ok (), { document with parsers }.requestRepaint)

/-- Inserts a text before the character with a given index. -/
def insert [ParseEngine] (document : Document) (index : Nat) (text : String) : Outcome Unit :=
  match document.buffer.insert index text.toList with
  | .error cause => (.error (.buffer cause), document)
  | .ok (edit, buffer) => { document with buffer }.reparse edit

/-- Removes the characters from `start` to before `stop`. -/
def delete [ParseEngine] (document : Document) (start stop : Nat) : Outcome Unit :=
  match document.buffer.delete start stop with
  | .error cause => (.error (.buffer cause), document)
  | .ok (edit, buffer) => { document with buffer }.reparse edit

/-- Changes the highlight level; tells whether there is highlighting. -/
def setLevel (document : Document) (level : Nat) : Bool × Document :=
  match document.highlight with
  | none => (false, document)
  | some state => (true, { document with highlight := some (state.setLevel level) }.requestRepaint)

/-- The spans to show. -/
def spans (document : Document) : List Span :=
  match document.highlight, document.parsers with
  | some state, parser :: _ =>
    match parser.tree with
    | some tree => state.spansIn parser.language tree document.buffer.chars
    | none => []
  | _, _ => []

/-- The text of a range. -/
def textBetween (document : Document) (start stop : Nat) : Except BufferError String :=
  document.buffer.slice start stop

/-- Changes the live rules and features, if highlighting is on. -/
def mapHighlight (document : Document) (change : Highlight → Highlight) : Document :=
  { document with highlight := document.highlight.map change }

instance : Host Document where
  hasHighlight document := document.highlight.isSome
  parserCount document := document.parsers.length
  language document := document.language
  rules document := document.highlight.map (·.rules)
  setRules rules document := document.mapHighlight ({ · with rules })
  features document := document.highlight.map (·.features)
  setFeatures features document := document.mapHighlight ({ · with features })
  recompute document := document.mapHighlight Highlight.recompute
  requestRepaint document := document.requestRepaint
  overlay document := document.overlay
  setOverlay overlay document := { document with overlay }

end Document

end Dimming
