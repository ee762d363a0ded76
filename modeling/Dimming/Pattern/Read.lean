import Dimming.Pattern.Basic
import Dimming.Text.Lines

/-!
# Reading patterns

The source of a pattern is an s-expression. Parentheses hold a node, a row of patterns or a predicate;
brackets hold choices; a name with a colon gives a field; a mark behind a pattern repeats it, makes it
optional or captures it. A semicolon starts a comment that runs to the end of its line, outside of
strings. The names of kinds and fields must be known to the grammar.

The syntax is that of tree-sitter 0.25 queries. In what its documentation leaves open its reader is
followed: where a name ends, what an escape in a string means, and that each beginning of `ERROR` or
`MISSING` stands for the word. Names hold ASCII letters and digits only; others are left out, since no
grammar has them in its names.
-/

set_option autoImplicit false

namespace Dimming

/-- The names that patterns of a language may use. -/
structure Vocabulary where
  /-- The kinds of named nodes. -/
  kinds : List String
  /-- The spellings of anonymous nodes. -/
  tokens : List String
  /-- The families of kinds. -/
  families : List String
  /-- The fields. -/
  fields : List String
  deriving Inhabited

namespace Vocabulary

/-- What a name in parentheses stands for. Each beginning of the word for errors stands for errors. -/
def named? (vocabulary : Vocabulary) (name : String) : Option NodeTest :=
  if name.toList.isPrefixOf "ERROR".toList then some .error
  else if vocabulary.kinds.contains name then some (.kind name true)
  else if vocabulary.families.contains name then some (.family name none)
  else none

/-- What a spelling in quotes stands for. -/
def token? (vocabulary : Vocabulary) (spelling : String) : Option NodeTest :=
  if vocabulary.tokens.contains spelling then some (.kind spelling false) else none

end Vocabulary

namespace PatternReader

/-- Where a reader of patterns stands, and the captures and predicates read so far. -/
structure State where
  /-- What is left to read. -/
  rest : List Char
  /-- The byte offset of what is left. -/
  offset : Nat
  /-- The names of the captures, in the order in which they first appear. -/
  captures : List String
  /-- The predicates of the pattern being read, in order. -/
  calls : List Call

/-- What stands where a pattern may stand. -/
inductive Piece where
  /-- The end of what surrounds it. -/
  | ended
  /-- A predicate, which is no pattern of its own. -/
  | call
  /-- A pattern. -/
  | pattern (pattern : Pattern)

/-- The result of a step of the reader. -/
abbrev Result (α : Type) := Except PatternFault (α × State)

/-- The next character; the null character at the end, as when it stands in the source. -/
def State.next (state : State) : Char := state.rest.headD '\x00'

/-- Moves past one character. -/
def State.advance (state : State) : State :=
  match state.rest with
  | [] => state
  | c :: rest => { state with rest, offset := state.offset + c.utf8Size }

/-- A blank of the pattern language. -/
def isBlank (c : Char) : Bool :=
  c == ' ' || c == '\t' || c == '\n' || c == '\r' || c.toNat == 0x0B || c.toNat == 0x0C

/-- The characters of blanks and comments at the start of a text; the flag tells that a comment is
open. -/
def blankLength : Bool → List Char → Nat
  | _, [] => 0
  | false, c :: rest =>
    if isBlank c then blankLength false rest + 1
    else if c == ';' then blankLength true rest + 1
    else 0
  | true, c :: rest =>
    if c == '\x00' then 0
    else if c == '\n' then blankLength false rest + 1
    else blankLength true rest + 1

/-- Moves past some characters. -/
def State.past (state : State) (count : Nat) : State :=
  { state with
    rest := state.rest.drop count
    offset := state.offset + Text.byteLength (state.rest.take count) }

/-- Moves past blanks and comments. -/
def State.skip (state : State) : State := state.past (blankLength false state.rest)

/-- A character that a name may start with. -/
def startsName (c : Char) : Bool := c.isAlphanum || c == '_' || c == '-'

/-- A character that may go on a name. -/
def continuesName (c : Char) : Bool := startsName c || c == '.'

/-- Reads a name; its first character has been looked at. -/
def State.name (state : State) : String × State :=
  let word := match state.rest with
    | [] => []
    | c :: rest => c :: rest.takeWhile continuesName
  (String.ofList word, state.past word.length)

/-- The characters of a string behind its opening quote, with the length of their spelling; none when
the string does not close in its line. -/
def stringBody : List Char → Option (List Char × Nat)
  | [] => none
  | ['\\'] => none
  | '\\' :: c :: rest =>
    let meant := match c with
      | 'n' => '\n'
      | 'r' => '\r'
      | 't' => '\t'
      | '0' => '\x00'
      | other => other
    (stringBody rest).map (fun (text, count) => (meant :: text, count + 2))
  | c :: rest =>
    if c = '"' then some ([], 1)
    else if c = '\n' then none
    else (stringBody rest).map (fun (text, count) => (c :: text, count + 1))

/-- Reads a string in quotes. -/
def State.string (state : State) : Result String :=
  match stringBody (state.rest.drop 1) with
  | none => .error (.malformed state.offset)
  | some (text, count) => .ok (String.ofList text, state.past (count + 1))

/-- Adds a capture name, unless it is known, and gives its number. -/
def State.addCapture (state : State) (name : String) : Nat × State :=
  match state.captures.findIdx? (· == name) with
  | some index => (index, state)
  | none => (state.captures.length, { state with captures := state.captures ++ [name] })

/-- Reads the arguments of a predicate, up to its closing parenthesis. -/
def arguments : Nat → List Argument → State → Result (List Argument)
  | 0, _, state => .error (.malformed state.offset)
  | fuel + 1, done, state =>
    if state.next = ')' then .ok (done, state.advance.skip)
    else if state.next = '@' then
      let state := state.advance
      if startsName state.next then
        let (name, after) := state.name
        match state.captures.findIdx? (· == name) with
        | none => .error (.unknownCapture state.offset)
        | some index => arguments fuel (done ++ [.capture index]) after.skip
      else .error (.malformed state.offset)
    else if state.next = '"' then
      match state.string with
      | .error fault => .error fault
      | .ok (text, after) => arguments fuel (done ++ [.text text]) after.skip
    else if startsName state.next then
      let (word, after) := state.name
      arguments fuel (done ++ [.text word]) after.skip
    else .error (.malformed state.offset)

/-- Reads a predicate behind the mark that opens it. -/
def call (state : State) : Result Unit :=
  if startsName state.next then
    let (word, after) := state.name
    if after.next = '?' ∨ after.next = '!' then
      let name := word ++ String.singleton after.next
      match arguments (after.rest.length + 1) [] after.advance.skip with
      | .error fault => .error fault
      | .ok (arguments, state) =>
        .ok ((), { state with calls := state.calls ++ [⟨name, arguments⟩] })
    else .error (.malformed after.offset)
  else .error (.malformed state.offset)

/-- Reads the marks behind a pattern: repetitions, the optional mark and captures. -/
def suffixes : Nat → Pattern → State → Result Pattern
  | 0, _, state => .error (.malformed state.offset)
  | fuel + 1, pattern, state =>
    if state.next = '+' then suffixes fuel (.repeated pattern true) state.advance.skip
    else if state.next = '*' then suffixes fuel (.repeated pattern false) state.advance.skip
    else if state.next = '?' then suffixes fuel (.optional pattern) state.advance.skip
    else if state.next = '@' then
      let state := state.advance
      if startsName state.next then
        let (name, after) := state.name
        let (index, after) := after.skip.addCapture name
        suffixes fuel (pattern.mapFirst (NodeSpec.addCapture index)) after
      else .error (.malformed state.offset)
    else .ok (pattern, state)

/-- Where a pattern is read: what a fault of its first node is reported at, if that is not where it
starts, and whether it is anchored. -/
structure Place where
  /-- The offset to report. -/
  outer : Option Nat
  /-- No named node may lie before the pattern. -/
  anchored : Bool

/-- Reads a sibling anchor, if there is one. -/
def anchor (state : State) (anchored : Bool) : Bool × State :=
  if state.next = '.' then (true, state.advance.skip) else (anchored, state)

/-- What a name in parentheses stands for; the state is behind the name. -/
def nodeTest (vocabulary : Vocabulary) (word : String) (start : Nat) (state : State) :
    Result NodeTest :=
  if word = "_" then .ok (.anyNamed, state)
  else if word.toList.isPrefixOf "MISSING".toList then
    let state := state.skip
    if startsName state.next then
      let (name, after) := state.name
      match vocabulary.named? name with
      | some (.kind name _) => .ok (.missing (some (name, true)), after)
      | some .error => .ok (.missing (some ("ERROR", true)), after)
      | some _ => .ok (.missing none, after)
      | none => .error (.unknownKind state.offset)
    else if state.next = '"' then
      match state.string with
      | .error fault => .error fault
      | .ok (spelling, after) =>
        match vocabulary.token? spelling with
        | some _ => .ok (.missing (some (spelling, false)), after)
        | none => .error (.unknownKind (state.offset + 1))
    else if state.next = ')' then .ok (.missing none, state)
    else .error (.malformed state.offset)
  else match vocabulary.named? word with
    | some test => .ok (test, state)
    | none => .error (.unknownKind start)

/-- Reads the member of a family behind a slash, if there is one. `start` is where the name starts. -/
def familyMember (vocabulary : Vocabulary) (test : NodeTest) (start : Nat) (state : State) :
    Result NodeTest :=
  if state.next ≠ '/' then .ok (test, state)
  else match test with
    | .family family _ =>
      let state := state.advance
      if startsName state.next then
        let (word, after) := state.name
        match vocabulary.named? word with
        | some (.kind kind _) => .ok (.family family (some (kind, true)), after)
        | some _ => .ok (.family family none, after)
        | none => .error (.unknownKind state.offset)
      else if state.next = '"' then
        match state.string with
        | .error fault => .error fault
        | .ok (spelling, after) =>
          if (vocabulary.token? spelling).isSome then
            .ok (.family family (some (spelling, false)), after)
          else .error (.unknownKind state.offset)
      else .error (.malformed state.offset)
    | _ => .error (.impossible (start - 1))

mutual

/-- Reads one pattern with the marks behind it. -/
def pattern (vocabulary : Vocabulary) (fuel : Nat) (place : Place) (state : State) : Result Piece :=
  match fuel with
  | 0 => .error (.malformed state.offset)
  | fuel + 1 =>
    let offset := place.outer.getD state.offset
    let spec (test : NodeTest) : NodeSpec := ⟨test, none, [], place.anchored, false, [], offset⟩
    let finish (result : Result Pattern) : Result Piece :=
      match result with
      | .error fault => .error fault
      | .ok (pattern, state) =>
        match suffixes (state.rest.length + 1) pattern state.skip with
        | .error fault => .error fault
        | .ok (pattern, state) => .ok (.pattern pattern, state)
    if state.next = '\x00' then .error (.malformed state.offset)
    else if state.next = ')' ∨ state.next = ']' then .ok (.ended, state)
    else if state.next = '[' then
      finish (options vocabulary fuel ⟨some offset, place.anchored⟩ place.anchored [] state.advance.skip)
    else if state.next = '(' then
      let inside := state.advance.skip
      if inside.next = '(' ∨ inside.next = '"' ∨ inside.next = '[' then
        finish (row vocabulary fuel (some offset) place.anchored [] inside)
      else if inside.next = '.' ∨ inside.next = '#' then
        match call inside.advance with
        | .error fault => .error fault
        | .ok ((), state) => .ok (.call, state)
      else if startsName inside.next then
        let (word, after) := inside.name
        match nodeTest vocabulary word inside.offset after with
        | .error fault => .error fault
        | .ok (test, after) =>
          match familyMember vocabulary test inside.offset after with
          | .error fault => .error fault
          | .ok (test, after) => finish (items vocabulary fuel (spec test) false [] after.skip)
      else .error (.malformed inside.offset)
    else if state.next = '_' then
      finish (.ok (.node (spec .anything) [], state.advance.skip))
    else if state.next = '"' then
      match state.string with
      | .error fault => .error fault
      | .ok (spelling, after) =>
        match vocabulary.token? spelling with
        | none => .error (.unknownKind (state.offset + 1))
        | some test => finish (.ok (.node (spec test) [], after))
    else if startsName state.next then
      let (field, after) := state.name
      let after := after.skip
      if after.next ≠ ':' then .error (.malformed state.offset)
      else
        match pattern vocabulary fuel ⟨some offset, place.anchored⟩ after.advance.skip with
        | .error fault => .error fault
        | .ok (.ended, after) => .error (.malformed after.offset)
        | .ok (.call, after) => .ok (.call, after)
        | .ok (.pattern part, after) =>
          if vocabulary.fields.contains field then
            finish (.ok (part.mapFirst (fun spec => { spec with field := some field }), after))
          else .error (.unknownField state.offset)
    else .error (.malformed state.offset)

/-- Reads the choices behind an opening bracket. -/
def options (vocabulary : Vocabulary) (fuel : Nat) (place : Place) (anchored : Bool)
    (done : List Pattern) (state : State) : Result Pattern :=
  match fuel with
  | 0 => .error (.malformed state.offset)
  | fuel + 1 =>
    match pattern vocabulary fuel place state with
    | .error fault => .error fault
    | .ok (.ended, state) =>
      if state.next = ']' ∧ done ≠ [] then .ok (.choice done, state.advance)
      else .error (.malformed state.offset)
    | .ok (.call, state) =>
      options vocabulary fuel ⟨none, anchored⟩ anchored (done ++ [.group []]) state
    | .ok (.pattern option, state) =>
      options vocabulary fuel ⟨none, anchored⟩ anchored (done ++ [option]) state

/-- Reads the patterns of a row, up to its closing parenthesis. -/
def row (vocabulary : Vocabulary) (fuel : Nat) (outer : Option Nat) (anchored : Bool)
    (done : List Pattern) (state : State) : Result Pattern :=
  match fuel with
  | 0 => .error (.malformed state.offset)
  | fuel + 1 =>
    let (anchored, state) := anchor state anchored
    match pattern vocabulary fuel ⟨outer, anchored⟩ state with
    | .error fault => .error fault
    | .ok (.ended, state) =>
      if state.next = ')' then .ok (.group done, state.advance)
      else .error (.malformed state.offset)
    | .ok (.call, state) => row vocabulary fuel none false done state
    | .ok (.pattern part, state) => row vocabulary fuel none false (done ++ [part]) state

/-- Reads what stands inside the parentheses of a node. -/
def items (vocabulary : Vocabulary) (fuel : Nat) (spec : NodeSpec) (anchored : Bool)
    (done : List Pattern) (state : State) : Result Pattern :=
  match fuel with
  | 0 => .error (.malformed state.offset)
  | fuel + 1 =>
    if state.next = '!' then
      let state := state.advance.skip
      if startsName state.next then
        let (field, after) := state.name
        if vocabulary.fields.contains field then
          items vocabulary fuel { spec with absent := spec.absent ++ [field] } anchored done after.skip
        else .error (.unknownField state.offset)
      else .error (.malformed state.offset)
    else
      let (anchored, state) := anchor state anchored
      match pattern vocabulary fuel ⟨none, anchored⟩ state with
      | .error fault => .error fault
      | .ok (.ended, state) =>
        if state.next ≠ ')' then .error (.malformed state.offset)
        else if anchored then
          match done.getLast? with
          | none => .error (.malformed state.offset)
          | some final =>
            let final := final.mapFirst (fun spec => { spec with last := true })
            .ok (.node spec (done.dropLast ++ [final]), state.advance)
        else .ok (.node spec done, state.advance)
      | .ok (.call, state) => items vocabulary fuel spec false done state
      | .ok (.pattern part, state) => items vocabulary fuel spec false (done ++ [part]) state

end

/-- One pattern of a source with its predicates and the offset at which it starts. -/
structure Top where
  /-- The pattern. -/
  pattern : Pattern
  /-- Its predicates. -/
  calls : List Call
  /-- Where it starts. -/
  offset : Nat

/-- Reads the patterns of a source, up to its end. -/
def tops (vocabulary : Vocabulary) : Nat → List Top → State → Result (List Top)
  | 0, _, state => .error (.malformed state.offset)
  | fuel + 1, done, state =>
    if state.rest = [] then .ok (done, state)
    else
      let start := state.offset
      match pattern vocabulary (2 * state.rest.length + 4) ⟨none, false⟩ { state with calls := [] } with
      | .error fault => .error fault
      | .ok (.ended, state) => .error (.malformed state.offset)
      | .ok (.call, state) =>
        tops vocabulary fuel (done ++ [⟨.group [], state.calls, start⟩]) state
      | .ok (.pattern part, state) =>
        tops vocabulary fuel (done ++ [⟨part, state.calls, start⟩]) state

/-- The patterns of a source and the names of its captures. -/
def read (vocabulary : Vocabulary) (source : List Char) :
    Except PatternFault (List Top × List String) :=
  match tops vocabulary (source.length + 1) [] (State.skip ⟨source, 0, [], []⟩) with
  | .error fault => .error fault
  | .ok (tops, state) => .ok (tops, state.captures)

end PatternReader

end Dimming
