import Dimming.Proofs.Buffers.Places
import Dimming.Proofs.Buffers.Replay
import Dimming.Proofs.Text.Points

/-!
# The points of an edit

The points that a buffer reports with an edit are its own points of the ends of the edit: of the start and
of the old end in the text before the edit, and, for an insertion, of the new end in the text after it.
The start has one point only, which is read before the edit. It is the point of the start after the edit
as well, unless a carriage return stands right before the edit and the edit parts it from a line feed or
brings it together with one.
-/

set_option autoImplicit false

namespace Dimming

open Text

namespace Buffer

/-- The point of a boundary is known. -/
theorem point_of_isBoundary {buffer : Buffer} {offset : Nat} (h : IsBoundary buffer.chars offset) :
    buffer.point offset = .ok (pointAt buffer.chars offset) :=
  point_eq_ok h.le_byteLength

/-- The start point and the old end point are read in the text before the change. -/
theorem points_before_change {buffer after : Buffer} {change : Change} {edit : Edit}
    (h : buffer.change change = .ok (edit, after)) :
    edit.startPoint = pointAt buffer.chars edit.startByte ∧
      edit.oldEndPoint = pointAt buffer.chars edit.oldEndByte := by
  cases change with
  | insert index text =>
    simp only [Buffer.change, insert] at h
    split at h
    · cases h
    · cases h
      exact ⟨rfl, rfl⟩
  | delete start stop =>
    simp only [Buffer.change, delete] at h
    split at h
    · cases h
    · cases h
      exact ⟨rfl, rfl⟩

/-- The new end point of an insertion is read in the text after it. -/
theorem newEndPoint_insert {buffer after : Buffer} {index : Nat} {text : List Char} {edit : Edit}
    (h : buffer.insert index text = .ok (edit, after)) :
    edit.newEndPoint = pointAt after.chars edit.newEndByte := by
  unfold insert at h
  split at h
  · cases h
  · cases h
    rfl

/-- The new end of a deletion is its start. -/
theorem newEnd_delete {buffer after : Buffer} {start stop : Nat} {edit : Edit}
    (h : buffer.delete start stop = .ok (edit, after)) :
    edit.newEndByte = edit.startByte ∧ edit.newEndPoint = edit.startPoint := by
  unfold delete at h
  split at h
  · cases h
  · cases h
    exact ⟨rfl, rfl⟩

/-- The text before the start of a change stays. -/
theorem take_start_change {buffer after : Buffer} {change : Change} {edit : Edit}
    (hrange : change.InRange buffer.chars) (h : buffer.change change = .ok (edit, after)) :
    after.chars.take change.start = buffer.chars.take change.start := by
  have hlength : (buffer.chars.take change.start).length = change.start :=
    List.length_take_of_le (Nat.le_trans hrange.1 hrange.2)
  rw [chars_change h, Change.applyTo, List.append_assoc, List.take_left' hlength]

/-- The start of a change has the same point in both texts, unless it lies inside a line break of two
characters in just one of them. -/
theorem pointAt_start_change {buffer after : Buffer} {change : Change} {edit : Edit}
    (hrange : change.InRange buffer.chars) (h : buffer.change change = .ok (edit, after)) :
    pointAt after.chars edit.startByte = pointAt buffer.chars edit.startByte ↔
      (InsidePair buffer.chars change.start ↔ InsidePair after.chars change.start) := by
  rw [(replaces_change h).start_eq]
  exact pointAt_byteOffset_eq_iff (take_start_change hrange h)

end Buffer

end Dimming

namespace Dimming.Proofs.EditPoints

open Text

/-- The points of the edit that is reported for any change in range, in any text, are points of the
buffer: the start point and the old end point in the text before the change, and the new end point of an
insertion in the text after it.
The start point is the point of the start in the text after the change, too, exactly when the start lies
inside a line break of two characters in both texts or in neither; then the new end point, of a deletion
as well, is the one in the text after the change. -/
theorem edit_points (buffer : Buffer) (change : Change) (h : change.InRange buffer.chars) :
    ∃ edit after, buffer.change change = .ok (edit, after) ∧
      buffer.point edit.startByte = .ok edit.startPoint ∧
      buffer.point edit.oldEndByte = .ok edit.oldEndPoint ∧
      (∀ index text, change = .insert index text →
        after.point edit.newEndByte = .ok edit.newEndPoint) ∧
      (after.point edit.startByte = .ok edit.startPoint ↔
        (InsidePair buffer.chars change.start ↔ InsidePair after.chars change.start)) ∧
      ((InsidePair buffer.chars change.start ↔ InsidePair after.chars change.start) →
        after.point edit.newEndByte = .ok edit.newEndPoint) := by
  obtain ⟨edit, after, hchange⟩ := Buffer.change_of_inRange h
  have hexact := Buffer.exact_change h hchange
  obtain ⟨hstart, hold⟩ := Buffer.points_before_change hchange
  have hseam := Buffer.pointAt_start_change h hchange
  have hnew := Buffer.point_of_isBoundary hexact.newEnd_after
  refine ⟨edit, after, hchange, ?_, ?_, ?_, ?_, ?_⟩
  · rw [Buffer.point_of_isBoundary hexact.start_before, hstart]
  · rw [Buffer.point_of_isBoundary hexact.oldEnd_before, hold]
  · rintro index text rfl
    rw [hnew, Buffer.newEndPoint_insert hchange]
  · rw [Buffer.point_of_isBoundary hexact.start_after, hstart, Except.ok.injEq, hseam]
  · intro hpair
    cases change with
    | insert index text => rw [hnew, Buffer.newEndPoint_insert hchange]
    | delete start stop =>
      obtain ⟨hbyte, hpoint⟩ := Buffer.newEnd_delete hchange
      rw [hnew, hbyte, hpoint, hseam.mpr hpair, hstart]

/-- A text in two lines is put in between two letters. -/
theorem edit_points_two_lines :
    (Change.insert 1 ['\r', '\n']).InRange (Buffer.ofText "ab").chars ∧
      ∃ edit after, (Buffer.ofText "ab").insert 1 ['\r', '\n'] = .ok (edit, after) ∧
        after.point edit.startByte = .ok ⟨0, 1⟩ ∧ edit.startPoint = ⟨0, 1⟩ ∧
        after.point edit.newEndByte = .ok ⟨1, 0⟩ ∧ edit.newEndPoint = ⟨1, 0⟩ := by
  have hrange : (Change.insert 1 ['\r', '\n']).InRange (Buffer.ofText "ab").chars := by decide
  obtain ⟨edit, after, hchange, -, -, hnew, hstart, -⟩ := edit_points _ _ hrange
  have hreported : (Buffer.ofText "ab").insert 1 ['\r', '\n'] =
      .ok (⟨1, 1, 3, ⟨0, 1⟩, ⟨0, 1⟩, ⟨1, 0⟩⟩, ⟨['a', '\r', '\n', 'b'], true, none⟩) := by rfl
  obtain ⟨rfl, rfl⟩ := Prod.mk.inj (Except.ok.inj (hchange.symm.trans hreported))
  exact ⟨hrange, _, _, hreported, hstart.mpr (by decide), rfl, hnew _ _ rfl, rfl⟩

/-- A line feed that is put in behind a carriage return makes one line break with it, and a letter that is
put in between parts them again. In neither case is the start point the point of the start afterwards.
When the letter is deleted, the new end point is not the point of the new end either. -/
theorem edit_points_of_joined_and_parted :
    (∃ edit after, (Buffer.ofText "\r").insert 1 ['\n'] = .ok (edit, after) ∧
      edit.startPoint = ⟨1, 0⟩ ∧ after.point edit.startByte = .ok ⟨0, 1⟩) ∧
    (∃ edit after, (Buffer.ofText "\r\n").insert 1 ['x'] = .ok (edit, after) ∧
      edit.startPoint = ⟨0, 1⟩ ∧ after.point edit.startByte = .ok ⟨1, 0⟩) ∧
    (∃ edit after, (Buffer.ofText "\rx\n").delete 1 2 = .ok (edit, after) ∧
      edit.newEndPoint = ⟨1, 0⟩ ∧ after.point edit.newEndByte = .ok ⟨0, 1⟩) := by
  exact ⟨⟨_, _, rfl, by decide, by rfl⟩, ⟨_, _, rfl, by decide, by rfl⟩,
    ⟨_, _, rfl, by decide, by rfl⟩⟩

end Dimming.Proofs.EditPoints
