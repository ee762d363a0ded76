import Dimming.Buffer
import Dimming.Proofs.Text.Bytes

/-!
# Edits and the bytes that they change

An edit describes the change from one text to another when the bytes before its range and those behind
it stay. Every edit that a buffer reports describes the change that the buffer made, whatever the
indices, and one that is empty changed nothing. Edits in a row compose to the change from the first text
to the last.
-/

set_option autoImplicit false

namespace Dimming

open Text

namespace Edit

/-- The byte range of an edit describes the change from some bytes to others. -/
structure Describes (edit : Edit) (before after : List UInt8) : Prop where
  /-- What is replaced is a range. -/
  start_le_oldEnd : edit.startByte ≤ edit.oldEndByte
  /-- It lies within the old bytes. -/
  oldEnd_le : edit.oldEndByte ≤ before.length
  /-- What is put in is a range. -/
  start_le_newEnd : edit.startByte ≤ edit.newEndByte
  /-- It lies within the new bytes. -/
  newEnd_le : edit.newEndByte ≤ after.length
  /-- The bytes before the range stay. -/
  take_eq : after.take edit.startByte = before.take edit.startByte
  /-- The bytes behind the range stay. -/
  drop_eq : after.drop edit.newEndByte = before.drop edit.oldEndByte

/-- Edits, oldest first, lead from some bytes to others. -/
inductive Composes : List Edit → List UInt8 → List UInt8 → Prop where
  | refl (bytes : List UInt8) : Composes [] bytes bytes
  | concat {edits : List Edit} {edit : Edit} {first before after : List UInt8}
      (hedits : Composes edits first before) (hedit : edit.Describes before after) :
      Composes (edits ++ [edit]) first after

/-- Replacing characters between a front and a back is described by their byte lengths. -/
theorem describes_replace {edit : Edit} {front old new back : List Char}
    (hstart : edit.startByte = byteLength front)
    (hold : edit.oldEndByte = byteLength (front ++ old))
    (hnew : edit.newEndByte = byteLength (front ++ new)) :
    edit.Describes (utf8 (front ++ old ++ back)) (utf8 (front ++ new ++ back)) := by
  have hbytes : ∀ middle : List Char, (utf8 (front ++ middle ++ back)).length =
      byteLength front + byteLength middle + byteLength back := by
    intro middle
    rw [length_utf8, byteLength_append, byteLength_append]
  have htake : ∀ middle : List Char,
      (utf8 (front ++ middle ++ back)).take (byteLength front) = utf8 front := by
    intro middle
    rw [List.append_assoc, utf8_append, ← length_utf8, List.take_left']
    rfl
  have hdrop : ∀ middle : List Char,
      (utf8 (front ++ middle ++ back)).drop (byteLength (front ++ middle)) = utf8 back := by
    intro middle
    rw [utf8_append, ← length_utf8, List.drop_left']
    rfl
  rw [byteLength_append] at hold hnew
  refine ⟨?_, ?_, ?_, ?_, ?_, ?_⟩
  · omega
  · rw [hbytes]
    omega
  · omega
  · rw [hbytes]
    omega
  · rw [hstart, htake, htake]
  · rw [hold, hnew, ← byteLength_append, ← byteLength_append, hdrop, hdrop]

/-- An edit that is empty replaces nothing by nothing. -/
theorem eq_nil_of_isEmpty {edit : Edit} {front old new : List Char}
    (hstart : edit.startByte = byteLength front)
    (hold : edit.oldEndByte = byteLength (front ++ old))
    (hnew : edit.newEndByte = byteLength (front ++ new)) (h : edit.isEmpty = true) :
    old = [] ∧ new = [] := by
  simp only [isEmpty, Bool.and_eq_true, beq_iff_eq] at h
  rw [byteLength_append] at hold hnew
  constructor
  · exact byteLength_eq_zero.mp (by omega)
  · exact byteLength_eq_zero.mp (by omega)

end Edit

namespace Buffer

/-- An edit that a buffer reports replaces some characters between a front and a back. -/
structure Replaces (buffer : Buffer) (edit : Edit) (after : Buffer) (front old new back : List Char) :
    Prop where
  chars_before : buffer.chars = front ++ old ++ back
  chars_after : after.chars = front ++ new ++ back
  start_eq : edit.startByte = byteLength front
  oldEnd_eq : edit.oldEndByte = byteLength (front ++ old)
  newEnd_eq : edit.newEndByte = byteLength (front ++ new)

namespace Replaces

variable {buffer after : Buffer} {edit : Edit} {front old new back : List Char}

/-- The edit describes the change. -/
theorem describes (h : Replaces buffer edit after front old new back) :
    edit.Describes (utf8 buffer.chars) (utf8 after.chars) := by
  rw [h.chars_before, h.chars_after]
  exact Edit.describes_replace h.start_eq h.oldEnd_eq h.newEnd_eq

/-- An empty edit leaves the text alone. -/
theorem chars_eq_of_isEmpty (h : Replaces buffer edit after front old new back)
    (hempty : edit.isEmpty = true) : after.chars = buffer.chars := by
  obtain ⟨rfl, rfl⟩ := Edit.eq_nil_of_isEmpty h.start_eq h.oldEnd_eq h.newEnd_eq hempty
  rw [h.chars_after, h.chars_before]

end Replaces

/-- An insertion puts the new text between what is before the index and what is behind it. -/
theorem replaces_insert {buffer after : Buffer} {index : Nat} {text : List Char} {edit : Edit}
    (h : buffer.insert index text = .ok (edit, after)) :
    Replaces buffer edit after (buffer.chars.take index) [] text (buffer.chars.drop index) := by
  unfold insert at h
  split at h
  · cases h
  · cases h
    refine ⟨by simp, rfl, rfl, by simp [byteOffset], ?_⟩
    rw [byteLength_append]
    rfl

/-- A deletion takes out what is between the two indices. -/
theorem replaces_delete {buffer after : Buffer} {start stop : Nat} {edit : Edit}
    (h : buffer.delete start stop = .ok (edit, after)) :
    Replaces buffer edit after (buffer.chars.take start)
      ((buffer.chars.take stop).drop start) [] (buffer.chars.drop stop) := by
  unfold delete at h
  split at h
  · cases h
  · next hrange =>
    have hle : start ≤ stop := by omega
    have htake := take_append_drop_take buffer.chars hle
    cases h
    refine ⟨?_, by simp, rfl, ?_, by simp [byteOffset]⟩
    · rw [htake, List.take_append_drop]
    · rw [htake]
      rfl

/-- An insertion keeps the path. -/
theorem path_insert {buffer after : Buffer} {index : Nat} {text : List Char} {edit : Edit}
    (h : buffer.insert index text = .ok (edit, after)) : after.path = buffer.path := by
  unfold insert at h
  split at h
  · cases h
  · cases h
    rfl

/-- A deletion keeps the path. -/
theorem path_delete {buffer after : Buffer} {start stop : Nat} {edit : Edit}
    (h : buffer.delete start stop = .ok (edit, after)) : after.path = buffer.path := by
  unfold delete at h
  split at h
  · cases h
  · cases h
    rfl

end Buffer

end Dimming
