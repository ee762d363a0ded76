import Dimming.Grammar.Form

/-!
# Reading a text by a grammar

A reader goes through the forms of a grammar from left to right, tries choices in their order and
takes back what it read when a choice fails. Text that fits no form is set apart, token by token, in
error nodes, and reading goes on behind it. `Grammar.read` keeps every character: a tree that does not
give its text back is replaced by a single error node.

This stands in for the parser of tree-sitter 0.25. For texts that fit their grammar the trees are meant
to be the same; for others they need not be, since tree-sitter looks for the cheapest way to skip and to
add tokens, and that search is left out. Using a former tree, and giving a text up, are left to the
engine of a parser.
-/

set_option autoImplicit false

namespace Dimming

namespace Cursor

/-- The place at the start of a text. -/
def start (grammar : Grammar) (text : List Char) : Cursor :=
  ⟨text, text.length, if grammar.indented then 0 else 1, [0], true, false, false⟩

/-- Line breaks are blanks here. -/
def breaksAreBlank (cursor : Cursor) : Bool :=
  cursor.fresh || cursor.depth != 0

/-- The place behind some characters. -/
def drop (cursor : Cursor) (count : Nat) : Cursor :=
  { cursor with rest := cursor.rest.drop count, left := cursor.left - count }

/-- The place behind some characters of a token. -/
def past (cursor : Cursor) (count : Nat) : Cursor :=
  { cursor.drop count with fresh := false, tight := false }

end Cursor

namespace Grammar

/-- The number of characters of the blanks that open a text. Where line breaks count, they are no
blanks. -/
def blankLength (grammar : Grammar) (breaks : Bool) : List Char → Nat
  | [] => 0
  | c :: rest =>
    if grammar.isBlank c && (breaks || !(c == '\n' || c == '\r')) then
      grammar.blankLength breaks rest + 1
    else 0

/-- The first extra that stands at the start of a text, with its length. -/
def extraAt (grammar : Grammar) (text : List Char) : Option (Extra × Nat) :=
  grammar.extras.findSome? fun extra =>
    match extra.scan text with
    | 0 => none
    | count => some (extra, count)

/-- The blanks and extras before the next token, and the place behind them. -/
def padding (grammar : Grammar) : Nat → Cursor → List Tree × Cursor
  | 0, cursor => ([], cursor)
  | fuel + 1, cursor =>
    match grammar.blankLength cursor.breaksAreBlank cursor.rest with
    | 0 =>
      match grammar.extraAt cursor.rest with
      | none => ([], cursor)
      | some (extra, count) =>
        let (more, after) := padding grammar fuel (cursor.drop count)
        (extra.build (cursor.rest.take count) :: more, after)
    | count =>
      let (more, after) := padding grammar fuel (cursor.drop count)
      (.space (cursor.rest.take count) :: more, after)

/-- Moves to the next token; a glued token has nothing before it. -/
def skip (grammar : Grammar) (cursor : Cursor) : List Tree × Cursor :=
  if cursor.tight then ([], cursor) else grammar.padding (cursor.left + 1) cursor

/-- The spelling stands at the start of the text, and a word does not go on behind it. -/
def spells (grammar : Grammar) (text : List Char) (spelling : List Char) : Bool :=
  spelling.isPrefixOf text
    && match spelling.getLast?, (text.drop spelling.length).head? with
      | some last, some next => !(grammar.isWord last && grammar.isWord next)
      | _, _ => true

end Grammar

/-- What reading a form gives: the trees read and the place behind them. -/
abbrev Reading := Option (List Tree × Cursor)

/-- What reading a named form depends on besides the text that is left. -/
structure Spot where
  /-- The name. -/
  name : String
  /-- The power that operators must have. -/
  power : Nat
  /-- The number of open brackets. -/
  depth : Nat
  /-- The indentations of the open blocks. -/
  indents : List Nat
  /-- A logical line has ended. -/
  fresh : Bool
  /-- The next token must follow at once. -/
  tight : Bool
  /-- A block follows. -/
  bare : Bool
  deriving DecidableEq

/-- The readings of named forms so far, by the number of characters that were left. -/
abbrev Memo := Array (List (Spot × Reading))

/-- Reading that remembers what it has read. -/
abbrev Remembering (α : Type) := StateM Memo α

namespace Memo

/-- Nothing read of a text so far. -/
def start (text : List Char) : Memo := Array.replicate (text.length + 1) []

/-- The reading of a named form at a place, if it is known. -/
def find? (memo : Memo) (left : Nat) (spot : Spot) : Option Reading :=
  ((memo[left]?).getD []).findSome? fun (known, reading) =>
    if known = spot then some reading else none

end Memo

namespace Form

/-- Reads a token by its length. -/
def token (grammar : Grammar) (cursor : Cursor) (length : List Char → Nat)
    (build : List Char → Tree) : Reading :=
  let (before, there) := grammar.skip cursor
  match length there.rest with
  | 0 => none
  | count => some (before ++ [build (there.rest.take count)], there.past count)

/-- The length of a spelling that stands at the start of a text. -/
def literalLength (grammar : Grammar) (spelling : List Char) (text : List Char) : Nat :=
  if grammar.spells text spelling then spelling.length else 0

/-- Splits off the padding around the trees of a node, which belongs outside of it. -/
def trim (trees : List Tree) : List Tree × List Tree × List Tree :=
  let before := trees.takeWhile Tree.isPadding
  let body := trees.dropWhile Tree.isPadding
  let after := (body.reverse.takeWhile Tree.isPadding).reverse
  (before, body.take (body.length - after.length), after)

/-- Makes a node of trees; padding at their ends stays outside. -/
def wrap (label : Label) (trees : List Tree) : List Tree :=
  let (before, body, after) := trim trees
  before ++ Tree.branch label body :: after

/-- Changes the labels of the trees that are no padding. -/
def relabel (change : Label → Label) (trees : List Tree) : List Tree :=
  trees.map (fun tree => if tree.isPadding then tree else tree.mapLabel change)

/-- Notes the families through which nodes were reached. -/
def markFamilies (grammar : Grammar) (family : Option String) (trees : List Tree) : List Tree :=
  match family with
  | none => trees
  | some family =>
    relabel (fun label =>
      { label with families := label.families ++ grammar.familiesOf family label.kind }) trees

/-- Notes the field that nodes fill. -/
def markField (name : String) (trees : List Tree) : List Tree :=
  relabel (fun label => { label with fields := label.fields ++ [name] }) trees

/-- The kind of the last node of some trees. -/
def lastKind (trees : List Tree) : String :=
  (trees.reverse.findSome? Tree.kind?).getD ""

/-- Changes the trees of a reading. -/
def mapTrees (change : List Tree → List Tree) (reading : Reading) : Reading :=
  reading.map (fun (trees, after) => (change trees, after))

/-- Changes the place behind a reading. -/
def mapPlace (change : Cursor → Cursor) (reading : Reading) : Reading :=
  reading.map (fun (trees, after) => (trees, change after))

/-- Reads forms one after the other. -/
def readRow (self : Form → Cursor → Remembering Reading) :
    List Form → List Tree → Cursor → Remembering Reading
  | [], done, cursor => pure (some (done, cursor))
  | part :: rest, done, cursor => do
    match ← self part cursor with
    | none => pure none
    | some (trees, after) => readRow self rest (done ++ trees) after

/-- Reads the first form that fits. -/
def readFirst (self : Form → Cursor → Remembering Reading) :
    List Form → Cursor → Remembering Reading
  | [], _ => pure none
  | choice :: rest, cursor => do
    match ← self choice cursor with
    | none => readFirst self rest cursor
    | some reading => pure (some reading)

/-- The operand of an operator with the marks that the operator gives it. -/
def operand (grammar : Grammar) (tail : Tail) (left : List Tree) : List Tree :=
  let marked := markFamilies grammar tail.family left
  match tail.field with
  | none => marked
  | some slot => markField slot marked

/-- Extends what is read so far by the first operator that fits. -/
def readTail (grammar : Grammar) (self : Form → Cursor → Remembering Reading) (power : Nat)
    (left : List Tree) (cursor : Cursor) : List Tail → Remembering Reading
  | [] => pure none
  | tail :: rest => do
    let fits := power ≤ tail.power
      && (tail.operands.isEmpty || tail.operands.contains (lastKind left))
    if fits then
      match ← self tail.body cursor with
      | some (trees, after) =>
        pure (some (wrap (.ofKind tail.kind) (operand grammar tail left ++ trees), after))
      | none => readTail grammar self power left cursor rest
    else readTail grammar self power left cursor rest

/-- Reads a named form afresh. -/
def readNamed (grammar : Grammar) (self : Form → Cursor → Remembering Reading)
    (definition : Definition) (power : Nat) (cursor : Cursor) : Remembering Reading := do
  match ← self definition.form cursor with
  | none => pure none
  | some (trees, after) =>
    let whole ←
      if definition.tails.isEmpty then pure (some (trees, after))
      else self (.extend definition.name power trees) after
    pure (mapTrees (markFamilies grammar definition.family) whole)

/-- Reads one form; `self` reads the forms inside it. -/
def readWith (grammar : Grammar) (self : Form → Cursor → Remembering Reading) :
    Form → Cursor → Remembering Reading
  | .lit text, cursor =>
    pure (token grammar cursor (literalLength grammar text.toList) (.leaf (.ofToken text)))
  | .op text others, cursor =>
    pure (token grammar cursor
      (fun rest =>
        if others.any (fun other => other.toList.isPrefixOf (rest.drop text.length)) then 0
        else literalLength grammar text.toList rest)
      (.leaf (.ofToken text)))
  | .leaf kind scan, cursor => pure (token grammar cursor scan (.leaf (.ofKind kind)))
  | .quiet scan, cursor => pure (token grammar cursor scan .hidden)
  | .seq parts, cursor => readRow self parts [] cursor
  | .alt choices, cursor => readFirst self choices cursor
  | .opt part, cursor => do
    match ← self part cursor with
    | none => pure (some ([], cursor))
    | some reading => pure (some reading)
  | .many part, cursor => do
    match ← self part cursor with
    | none => pure (some ([], cursor))
    | some (trees, after) =>
      if after.left < cursor.left then
        pure (mapTrees (trees ++ ·) (← self (.many part) after))
      else pure (some ([], cursor))
  | .ref name power, cursor => do
    let spot : Spot :=
      ⟨name, power, cursor.depth, cursor.indents, cursor.fresh, cursor.tight, cursor.bare⟩
    match (← get).find? cursor.left spot with
    | some reading => pure reading
    | none =>
      match grammar.lookup name with
      | none => pure none
      | some definition =>
        let reading ← readNamed grammar self definition power cursor
        modify (fun memo => memo.modify cursor.left ((spot, reading) :: ·))
        pure reading
  | .field name part, cursor => return mapTrees (markField name) (← self part cursor)
  | .node kind part, cursor => return mapTrees (wrap (.ofKind kind)) (← self part cursor)
  | .retitle kind named part, cursor =>
    return mapTrees (relabel (fun label => { label with kind, named })) (← self part cursor)
  | .glued part, cursor =>
    return mapPlace (fun after => { after with tight := false })
      (← self part { cursor with tight := true })
  | .ahead part, cursor => return (← self part cursor).map (fun _ => ([], cursor))
  | .absent part, cursor => do
    match ← self part cursor with
    | some _ => pure none
    | none => pure (some ([], cursor))
  | .check test, cursor => pure (if test cursor then some ([], cursor) else none)
  | .mark move, cursor =>
    pure ((move cursor).map fun (count, moved) =>
      let before := { cursor with rest := cursor.rest.take count, left := count, depth := 1 }
      let there := cursor.drop count
      ((grammar.padding (count + 1) before).1 ++ [.hidden []],
        { moved with rest := there.rest, left := there.left }))
  | .nest part, cursor =>
    return mapPlace (fun after => { after with depth := cursor.depth, bare := cursor.bare })
      (← self part { cursor with depth := cursor.depth + 1, bare := false })
  | .bare part, cursor =>
    return mapPlace (fun after => { after with bare := cursor.bare })
      (← self part { cursor with bare := true })
  | .closing text, cursor =>
    let (before, there) := grammar.skip cursor
    pure (if there.rest.isEmpty && cursor.depth ≤ 1 then
        some ([.leaf (.ofMissing text) []], cursor)
      else if grammar.spells there.rest text.toList then
        some (before ++ [.leaf (.ofToken text) (there.rest.take text.length)],
          there.past text.length)
      else none)
  | .standIn text, cursor => pure (some ([.leaf (.ofMissing text) []], cursor))
  | .astray scan, cursor =>
    pure (token grammar cursor scan (fun text => .branch .error [.hidden text]))
  | .extend name power left, cursor => do
    match grammar.lookup name with
    | none => pure none
    | some definition =>
      match ← readTail grammar self power left cursor definition.tails with
      | none => pure (some (left, cursor))
      | some (trees, after) => self (.extend name power trees) after

/-- Reads a form, going at most `fuel` forms deep. -/
def read (grammar : Grammar) : Nat → Form → Cursor → Remembering Reading
  | 0, _, _ => pure none
  | fuel + 1, form, cursor => readWith grammar (read grammar fuel) form cursor

end Form

namespace Grammar

/-- How deep forms may nest for a text: each character can open a bounded number of forms. -/
def fuelFor (text : List Char) : Nat := 200 * text.length + 400

/-- A stray token, or else a stray character. -/
def strayAt (grammar : Grammar) (fuel : Nat) (cursor : Cursor) :
    Remembering (List Tree × Cursor) := do
  let character := ([.hidden (cursor.rest.take 1)], cursor.past 1)
  match ← Form.read grammar fuel grammar.stray cursor with
  | some (trees, after) => pure (if after.left < cursor.left then (trees, after) else character)
  | none => pure character

/-- Puts trees that fit nowhere at the end of what was read; neighbours share one error node. -/
def pushStray (done : List Tree) (padding stray : List Tree) : List Tree :=
  let (before, body, after) := Form.trim stray
  match done.reverse with
  | .branch label parts :: earlier =>
    if label.status = .error then
      earlier.reverse ++ Tree.branch label (parts ++ padding ++ before ++ body) :: after
    else done ++ padding ++ before ++ Tree.branch .error body :: after
  | _ => done ++ padding ++ before ++ Tree.branch .error body :: after

/-- Reads as much as fits, sets a stray token apart, and goes on until the text ends. -/
def readAll (grammar : Grammar) (fuel : Nat) : Nat → List Tree → Cursor → Remembering (List Tree)
  | 0, done, cursor => pure (done ++ [.branch .error [.hidden cursor.rest]])
  | rounds + 1, done, cursor => do
    let (done, cursor) := match ← Form.read grammar fuel grammar.start cursor with
      | some (trees, after) => (done ++ trees, after)
      | none => (done, cursor)
    let (padding, there) := grammar.skip { cursor with fresh := true, tight := false }
    if there.rest.isEmpty then pure (done ++ padding)
    else
      let (stray, after) ← grammar.strayAt fuel there
      readAll grammar fuel rounds (pushStray done padding stray) { after with indents := [0] }

/-- The tree of a text. -/
def read (grammar : Grammar) (text : List Char) : Tree :=
  let trees := ((grammar.readAll (fuelFor text) (text.length + 1) [] (Cursor.start grammar text)).run
    (Memo.start text)).1
  if Tree.charsAll trees = text then .branch (.ofKind grammar.root) trees
  else .branch .error [.hidden text]

/-- Reading keeps every character of the text. -/
theorem chars_read (grammar : Grammar) (text : List Char) : (grammar.read text).chars = text := by
  unfold read
  simp only
  split
  · simpa [Tree.chars] using ‹_›
  · simp [Tree.chars, Tree.charsAll]

end Grammar

end Dimming
