import Dimming.Editor

/-!
# Commands

Built-in commands act on the active document. Further commands are looked up by name among registered
handlers.
-/

set_option autoImplicit false

namespace Dimming

/-- What a user can ask for. -/
inductive Command where
  | toggleOverlay
  | enableOverlay
  | disableOverlay
  | setLevel (level : Nat)
  | custom (name : String) (arguments : List String)
  deriving DecidableEq, Repr

/-- The name to show. -/
def Command.title : Command → String
  | .toggleOverlay => "Toggle Syntax De-emphasis"
  | .enableOverlay => "Enable Syntax De-emphasis"
  | .disableOverlay => "Disable Syntax De-emphasis"
  | .setLevel _ => "Set Highlight Level"
  | .custom name _ => name

/-- A command that is added to the built-in ones. -/
structure CommandHandler where
  name : String
  description : String
  run : List String → Editor → Editor.Outcome Unit

/-- The registered handlers; no two have one name. -/
structure CommandRegistry where
  handlers : List CommandHandler

namespace CommandRegistry

/-- The registry without handlers. -/
def empty : CommandRegistry := ⟨[]⟩

/-- Adds a handler in place of one with its name. -/
def register (registry : CommandRegistry) (handler : CommandHandler) : CommandRegistry :=
  ⟨registry.handlers.filter (fun other => other.name != handler.name) ++ [handler]⟩

/-- A handler by its name. -/
def find? (registry : CommandRegistry) (name : String) : Option CommandHandler :=
  registry.handlers.find? (fun handler => handler.name == name)

/-- The names of the handlers. -/
def names (registry : CommandRegistry) : List String :=
  registry.handlers.map (·.name)

/-- Runs something on the active document. -/
def onActive (editor : Editor) (run : DocumentId → Editor.Outcome Unit) : Editor.Outcome Unit :=
  match editor.activeDocument with
  | .error cause => (.error cause, editor)
  | .ok id => run id

/-- Drops the answer of an operation. -/
def dropAnswer {α : Type} (outcome : Editor.Outcome α) : Editor.Outcome Unit :=
  (outcome.1.map (fun _ => ()), outcome.2)

/-- Runs a command. -/
def execute (registry : CommandRegistry) (command : Command) (editor : Editor) :
    Editor.Outcome Unit :=
  match command with
  | .toggleOverlay => onActive editor (fun id => dropAnswer (editor.toggleOverlay id))
  | .enableOverlay => onActive editor (fun id => dropAnswer (editor.setOverlay id true))
  | .disableOverlay => onActive editor (fun id => dropAnswer (editor.setOverlay id false))
  | .setLevel level => onActive editor (fun id => editor.setLevel id level)
  | .custom name arguments =>
    match registry.find? name with
    | none => (.error (.commandNotFound name), editor)
    | some handler => handler.run arguments editor

end CommandRegistry

end Dimming
