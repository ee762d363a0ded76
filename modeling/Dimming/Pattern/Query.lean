import Dimming.Grammar.OfLanguage
import Dimming.Pattern.Match
import Dimming.Pattern.Possible
import Dimming.Text.Blank

/-!
# Queries

A query is the compiled source of patterns for one language. Compiling reads the patterns, refuses
those that the grammar can never match, and then looks at the predicates. A refused source is told
with the row and column of its fault.

The order of the checks and the texts of the faults are those of the Rust binding of tree-sitter 0.25.
Switching patterns and captures off, and asking for their quantifiers and properties, are left out, since
nothing asks for them.
-/

set_option autoImplicit false

namespace Dimming

/-- A compiled pattern with its predicates. -/
structure CompiledPattern where
  /-- The pattern. -/
  pattern : Pattern
  /-- The conditions on the text of its captures. -/
  predicates : List Predicate

/-- Compiled patterns and the names of their captures. -/
structure Query where
  /-- The patterns. -/
  patterns : List CompiledPattern
  /-- The capture names, in the order in which they first appear. -/
  captures : List String

namespace Predicate

/-- The name of a capture. -/
def captureName (captures : List String) (index : Nat) : String := captures.getD index ""

/-- The arguments of a predicate about properties: at most one capture, and a key that may have a
value. -/
def checkProperty (captures : List String) (name : String) (arguments : List Argument) :
    Except PredicateFault Unit :=
  if arguments.isEmpty ∨ arguments.length > 3 then .error (.tooManyProperties name arguments.length)
  else
    let rec go (seen : Bool) (texts : Nat) : List Argument → Except PredicateFault Unit
      | [] => if texts = 0 then .error (.noKey name) else .ok ()
      | .capture index :: rest =>
        if seen then .error (.secondCapture name (captureName captures index))
        else go true texts rest
      | .text value :: rest =>
        if texts ≥ 2 then .error (.thirdText name value) else go seen (texts + 1) rest
    go false 0 arguments

/-- Compiles a predicate. The names of the conditions on text end in a question mark; unknown names are
notes for others. -/
def ofCall (captures : List String) (call : Call) : Except PredicateFault Predicate :=
  let count := call.arguments.length
  let compares (positive all : Bool) : Except PredicateFault Predicate :=
    match call.arguments with
    | [.capture first, .text value] => .ok (.equalsText first value positive all)
    | [.capture first, .capture second] => .ok (.equalsCapture first second positive all)
    | [.text value, _] => .error (.firstNotCapture "eq?" value)
    | _ => .error (.wrongCount "eq?" "2" count)
  let searches (positive all : Bool) : Except PredicateFault Predicate :=
    match call.arguments with
    | [.capture first, .text source] =>
      match Regex.parse? source with
      | some regex => .ok (.matching first regex positive all)
      | none => .error (.badRegex source)
    | [.capture _, .capture second] => .error (.secondNotText "match?" (captureName captures second))
    | [.text value, _] => .error (.firstNotCapture "match?" value)
    | _ => .error (.wrongCount "match?" "2" count)
  let lists (positive : Bool) : Except PredicateFault Predicate :=
    match call.arguments with
    | [] => .error (.wrongCount "any-of?" "at least 1" count)
    | .text value :: _ => .error (.firstNotCapture "any-of?" value)
    | .capture first :: values =>
      let texts : Except PredicateFault (List String) := values.mapM fun
        | .text value => .ok value
        | .capture index => .error (.listNotText "any-of?" (captureName captures index))
      texts.map (fun values => .among first values positive)
  match call.name with
  | "eq?" => compares true true
  | "not-eq?" => compares false true
  | "any-eq?" => compares true false
  | "any-not-eq?" => compares false false
  | "match?" => searches true true
  | "not-match?" => searches false true
  | "any-match?" => searches true false
  | "any-not-match?" => searches false false
  | "any-of?" => lists true
  | "not-any-of?" => lists false
  | "set!" => (checkProperty captures "set!" call.arguments).map (fun _ => .note)
  | "is?" => (checkProperty captures "is?" call.arguments).map (fun _ => .note)
  | "is-not?" => (checkProperty captures "is-not?" call.arguments).map (fun _ => .note)
  | _ => .ok .note

end Predicate

namespace Query

/-- The number of line feeds before a byte offset. -/
def rowOf : List Char → Nat → Nat
  | [], _ => 0
  | c :: rest, offset =>
    if offset = 0 then 0
    else rowOf rest (offset - c.utf8Size) + (if c = '\n' then 1 else 0)

/-- Compiles the predicates of one pattern. -/
def compileTop (source : List Char) (captures : List String) (top : PatternReader.Top) :
    Except PatternFault CompiledPattern :=
  match top.calls.mapM (Predicate.ofCall captures) with
  | .error fault => .error (.predicate (rowOf source top.offset) fault)
  | .ok predicates => .ok ⟨top.pattern, predicates⟩

/-- Compiles a source for a language. -/
def compile (language : Language) (source : List Char) : Except PatternFault Query :=
  match PatternReader.read language.vocabulary source with
  | .error fault => .error fault
  | .ok (tops, captures) =>
    match tops.findSome? (fun top => Possible.fault? language.grammar top.pattern) with
    | some offset => .error (.impossible offset)
    | none =>
      match tops.mapM (compileTop source captures) with
      | .error fault => .error fault
      | .ok patterns => .ok ⟨patterns, captures⟩

/-- The nodes that a capture names in any match of the query below some nodes. -/
def captured (query : Query) (textOf : Node → List Char) (capture : Nat) (nodes : List Node) :
    List Node :=
  query.patterns.flatMap fun top =>
    (Matching.searchAll top.pattern nodes).flatMap fun bindings =>
      if top.predicates.all (Predicate.holds textOf bindings) then
        Predicate.nodesOf bindings capture
      else []

end Query

namespace PatternFault

/-- The line that holds a byte offset, with its row and the offset at which it starts; none when the
offset lies behind all lines. -/
def lineAt : List (List Char) → Nat → Nat → Nat → Nat × Nat × Option (List Char)
  | [], row, start, _ => (row, start, none)
  | line :: rest, row, start, offset =>
    let stop := start + Text.byteLength line + 1
    if stop > offset then (row, start, some line) else lineAt rest (row + 1) stop offset

/-- The name at the start of a text that stood behind a quote, up to the quote that closes it. -/
def quotedName : Nat → List Char → List Char
  | _, [] => []
  | backslashes, c :: rest =>
    if c = '"' ∧ backslashes % 2 = 0 then []
    else c :: quotedName (if c = '\\' then backslashes + 1 else 0) rest

/-- The name that a fault at a byte offset is about. -/
def nameAt (source : List Char) (offset : Nat) : List Char :=
  let index := Text.charIndex source offset
  let behind := source.drop index
  if offset > 0 ∧ (source.take index).getLast? = some '"' then quotedName 0 behind
  else behind.takeWhile (fun c => Text.isAlphanumeric c || c == '_' || c == '-')

/-- The wording of a fault in a source. -/
def message (source : List Char) (fault : PatternFault) : String :=
  let place (offset : Nat) (text : Nat → Option (List Char) → String) : String :=
    let (row, start, line) := lineAt (Text.linesOf source) 0 0 offset
    "Query error at " ++ toString (row + 1) ++ ":" ++ toString (offset - start + 1) ++ ". "
      ++ text (offset - start) line
  let named (what : String) (offset : Nat) : String :=
    place offset (fun _ _ => "Invalid " ++ what ++ " name " ++ String.ofList (nameAt source offset))
  let shown (what : String) (offset : Nat) : String :=
    place offset fun column line => what ++ ":\n" ++ match line with
      | none => "Unexpected EOF"
      | some line =>
        String.ofList line ++ "\n" ++ String.ofList (List.replicate column ' ') ++ "^"
  match fault with
  | .unknownKind offset =>
    place offset (fun _ _ => "Invalid node type " ++ String.ofList (nameAt source offset))
  | .unknownField offset => named "field" offset
  | .unknownCapture offset => named "capture" offset
  | .malformed offset => shown "Invalid syntax" offset
  | .impossible offset => shown "Impossible pattern" offset
  | .predicate row fault =>
    "Query error at " ++ toString (row + 1) ++ ":1. Invalid predicate: " ++ fault.message

end PatternFault

end Dimming
