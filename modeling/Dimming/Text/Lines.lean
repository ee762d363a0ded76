/-!
# Lines and points

A text is a list of characters and a place in it is a byte offset into its UTF-8 form. Line feed,
vertical tab, form feed, carriage return, next line, line separator and paragraph separator end a
line; a carriage return with a line feed after it ends one line together with it. A point is the row
of an offset and its distance in bytes from the start of that row.
-/

set_option autoImplicit false

namespace Dimming

namespace Text

/-- The number of bytes of a text in UTF-8. -/
def byteLength : List Char → Nat
  | [] => 0
  | c :: rest => c.utf8Size + byteLength rest

/-- The byte offset of the character with a given index. -/
def byteOffset (text : List Char) (index : Nat) : Nat :=
  byteLength (text.take index)

/-- The index of the character that a byte offset lies in; an offset inside a character counts as its
start. -/
def charIndex : List Char → Nat → Nat
  | [], _ => 0
  | c :: rest, offset =>
    if c.utf8Size ≤ offset then charIndex rest (offset - c.utf8Size) + 1 else 0

/-- The characters between two byte offsets, both moved back to a character's start. -/
def byteSlice (text : List Char) (start stop : Nat) : List Char :=
  (text.take (charIndex text stop)).drop (charIndex text start)

/-- A character that ends a line. -/
def isLineBreak (c : Char) : Bool :=
  c.toNat == 0x0A || c.toNat == 0x0B || c.toNat == 0x0C || c.toNat == 0x0D || c.toNat == 0x85
    || c.toNat == 0x2028 || c.toNat == 0x2029

/-- The offsets of the line starts after the first, for a text that begins at `offset`. -/
def laterLineStarts (offset : Nat) : List Char → List Nat
  | [] => []
  | [c] => if isLineBreak c then [offset + c.utf8Size] else []
  | c :: d :: rest =>
    if isLineBreak c && !(c == '\r' && d == '\n') then
      (offset + c.utf8Size) :: laterLineStarts (offset + c.utf8Size) (d :: rest)
    else laterLineStarts (offset + c.utf8Size) (d :: rest)

/-- The byte offsets at which lines start. -/
def lineStarts (text : List Char) : List Nat :=
  0 :: laterLineStarts 0 text

/-- The number of lines; a text that ends in a line break has an empty line after it. -/
def lineCount (text : List Char) : Nat :=
  (lineStarts text).length

end Text

/-- A place in a text as a row and a byte column. -/
structure Point where
  row : Nat
  column : Nat
  deriving DecidableEq, Repr, Inhabited

namespace Text

/-- The row that holds a byte offset: the lines that start at or before it, less one. -/
def rowAt (text : List Char) (offset : Nat) : Nat :=
  (laterLineStarts 0 text).countP (fun start => decide (start ≤ offset))

/-- The byte offset at which a row starts. -/
def rowStart (text : List Char) (row : Nat) : Nat :=
  (lineStarts text).getD row 0

/-- The point of a byte offset. -/
def pointAt (text : List Char) (offset : Nat) : Point :=
  let row := rowAt text offset
  ⟨row, offset - rowStart text row⟩

end Text

end Dimming
