import Dimming.Text.Lines
import Dimming.Disk

/-!
# Text buffers

A buffer is edited by character indices and reports every edit in byte offsets and points, the form
in which a parser wants to hear of it. A failed edit changes nothing; an edit that inserts or removes
nothing still marks the buffer as modified.
-/

set_option autoImplicit false

namespace Dimming

/-- One contiguous replacement: an insertion replaces nothing, a deletion puts nothing in. The old end is
a place in the text before the edit, the new end one in the text after it. -/
structure Edit where
  startByte : Nat
  oldEndByte : Nat
  newEndByte : Nat
  startPoint : Point
  oldEndPoint : Point
  newEndPoint : Point
  deriving DecidableEq, Repr

/-- Nothing was removed and nothing was added. -/
def Edit.isEmpty (edit : Edit) : Bool :=
  edit.startByte == edit.oldEndByte && edit.startByte == edit.newEndByte

/-- Why a buffer operation failed. -/
inductive BufferError where
  | invalidByteIndex (offset : Nat)
  | invalidCharIndex (index : Nat)
  | invalidRange (start stop : Nat)
  | disk (cause : DiskError)
  deriving DecidableEq, Repr

/-- The wording of a buffer error. -/
def BufferError.message : BufferError → String
  | .invalidByteIndex offset => "Invalid byte index: " ++ toString offset
  | .invalidCharIndex index => "Invalid character index: " ++ toString index
  | .invalidRange start stop => "Invalid range: " ++ toString start ++ ".." ++ toString stop
  | .disk cause => "IO error: " ++ cause.message

/-- A text with its file, if it has one, and whether it changed since it was loaded. -/
structure Buffer where
  chars : List Char
  modified : Bool
  path : Option String
  deriving DecidableEq, Repr, Inhabited

namespace Buffer

/-- The empty buffer. -/
def empty : Buffer := ⟨[], false, none⟩

/-- A buffer that holds a text and has no file. -/
def ofText (text : String) : Buffer := ⟨text.toList, false, none⟩

/-- Loads a buffer from a file. -/
def ofFile (disk : Disk) (path : String) : Except BufferError Buffer :=
  match disk.read path with
  | .error cause => .error (.disk cause)
  | .ok text => .ok ⟨text.toList, false, some path⟩

/-- The whole text. -/
def text (buffer : Buffer) : String := String.ofList buffer.chars

/-- There is no character. -/
def isEmpty (buffer : Buffer) : Bool := buffer.chars.isEmpty

/-- The number of characters. -/
def charCount (buffer : Buffer) : Nat := buffer.chars.length

/-- The number of bytes. -/
def byteCount (buffer : Buffer) : Nat := Text.byteLength buffer.chars

/-- The number of lines. -/
def lineCount (buffer : Buffer) : Nat := Text.lineCount buffer.chars

/-- The text between two byte offsets; an offset inside a character counts as its start. -/
def slice (buffer : Buffer) (start stop : Nat) : Except BufferError String :=
  if start > stop ∨ stop > buffer.byteCount then .error (.invalidRange start stop)
  else .ok (String.ofList (Text.byteSlice buffer.chars start stop))

/-- The point of a byte offset. -/
def point (buffer : Buffer) (offset : Nat) : Except BufferError Point :=
  if offset > buffer.byteCount then .error (.invalidByteIndex offset)
  else .ok (Text.pointAt buffer.chars offset)

/-- Inserts a text before the character with a given index. The start point is read before the
insertion and the new end point after it. -/
def insert (buffer : Buffer) (index : Nat) (text : List Char) :
    Except BufferError (Edit × Buffer) :=
  if index > buffer.charCount then .error (.invalidCharIndex index)
  else
    let start := Text.byteOffset buffer.chars index
    let startPoint := Text.pointAt buffer.chars start
    let chars := buffer.chars.take index ++ text ++ buffer.chars.drop index
    let stop := start + Text.byteLength text
    .ok (⟨start, start, stop, startPoint, startPoint, Text.pointAt chars stop⟩,
      { buffer with chars, modified := true })

/-- Removes the characters from `start` to before `stop`. Both points are read before the removal,
and the new end point is the start point. -/
def delete (buffer : Buffer) (start stop : Nat) : Except BufferError (Edit × Buffer) :=
  if start > stop ∨ stop > buffer.charCount then .error (.invalidRange start stop)
  else
    let first := Text.byteOffset buffer.chars start
    let last := Text.byteOffset buffer.chars stop
    let startPoint := Text.pointAt buffer.chars first
    let chars := buffer.chars.take start ++ buffer.chars.drop stop
    .ok (⟨first, last, first, startPoint, Text.pointAt buffer.chars last, startPoint⟩,
      { buffer with chars, modified := true })

end Buffer

end Dimming
