import Dimming.Buffer
import Dimming.Proofs.Text.LineStarts

/-!
# Offsets and their points

Every offset of a buffer has a point, inside of characters and line breaks as well, and none behind the
last byte has. The point names an existing line that starts at the offset or before it, so that the column
counts bytes from there and leads back to the offset; and points are in the order of their offsets.
-/

set_option autoImplicit false

namespace Dimming

open Text

namespace Buffer

variable {buffer : Buffer} {offset : Nat}

/-- Up to the end of the text every offset has a point. -/
theorem point_eq_ok (h : offset ≤ buffer.byteCount) :
    buffer.point offset = .ok (pointAt buffer.chars offset) :=
  if_neg (Nat.not_lt.mpr h)

/-- There is no point behind the last byte, and one at every offset up to there. -/
theorem point_eq_error_iff {cause : BufferError} :
    buffer.point offset = .error cause ↔
      cause = .invalidByteIndex offset ∧ buffer.byteCount < offset := by
  by_cases h : buffer.byteCount < offset
  · have hpoint : buffer.point offset = .error (.invalidByteIndex offset) := if_pos h
    rw [hpoint, Except.error.injEq, eq_comm, and_iff_left h]
  · simp [point_eq_ok (Nat.not_lt.mp h), h]

/-- A point that is told is the one of the offset in the text. -/
theorem eq_pointAt_of_point {point : Point} (h : buffer.point offset = .ok point) :
    point = pointAt buffer.chars offset := by
  by_cases hle : offset ≤ buffer.byteCount
  · exact (Except.ok.inj ((point_eq_ok hle).symm.trans h)).symm
  · have hpoint : buffer.point offset = .error (.invalidByteIndex offset) :=
      point_eq_error_iff.mpr ⟨rfl, Nat.not_le.mp hle⟩
    cases hpoint.symm.trans h

end Buffer

end Dimming

namespace Dimming.Proofs.OffsetPoints

open Text

/-- The lines of a buffer start at the beginning of its text and behind its line breaks, in ascending
order. Every offset up to the number of bytes has a point. Its row is the row of an existing line, the
last one that does not start behind the offset, so the column is an honest difference; start and column
together give the offset back. Of two offsets the earlier one has the earlier point, and the other way
round. Offsets behind the last byte, and no others, are refused. -/
theorem offsets_match_points (buffer : Buffer) :
    (∀ start, start ∈ lineStarts buffer.chars ↔ start = 0 ∨ LineEndsAt buffer.chars start) ∧
    (lineStarts buffer.chars).Pairwise (· < ·) ∧
    (∀ offset, offset ≤ buffer.byteCount → ∃ point, buffer.point offset = .ok point ∧
      point.row < buffer.lineCount ∧
      rowStart buffer.chars point.row ≤ offset ∧
      rowStart buffer.chars point.row + point.column = offset ∧
      ∀ row, row < buffer.lineCount →
        (rowStart buffer.chars row ≤ offset ↔ row ≤ point.row)) ∧
    (∀ offset other first second, buffer.point offset = .ok first →
      buffer.point other = .ok second → (first.Before second ↔ offset < other)) ∧
    ∀ offset cause, buffer.point offset = .error cause ↔
      cause = .invalidByteIndex offset ∧ buffer.byteCount < offset := by
  refine ⟨fun start => mem_lineStarts, pairwise_lineStarts buffer.chars, ?_, ?_,
    fun offset cause => Buffer.point_eq_error_iff⟩
  · intro offset hoffset
    exact ⟨_, Buffer.point_eq_ok hoffset, rowAt_lt_lineCount buffer.chars offset,
      rowStart_rowAt_le buffer.chars offset, rowStart_add_column buffer.chars offset,
      fun row hrow => rowStart_le_iff buffer.chars offset hrow⟩
  · intro offset other first second hfirst hsecond
    rw [Buffer.eq_pointAt_of_point hfirst, Buffer.eq_pointAt_of_point hsecond]
    exact before_iff_lt buffer.chars offset other

/-- An offset between a carriage return and its line feed is on the line that they end, and one inside a
line separator is on the line that this ends. -/
theorem offsets_match_points_inside :
    let buffer := Buffer.ofText "é\r\n\u2028x"
    3 ≤ buffer.byteCount ∧ 5 ≤ buffer.byteCount ∧
      buffer.point 3 = .ok ⟨0, 3⟩ ∧ buffer.point 5 = .ok ⟨1, 1⟩ ∧
      Point.Before ⟨0, 3⟩ ⟨1, 1⟩ ∧ rowStart buffer.chars 1 + 1 = 5 := by
  intro buffer
  have hthree : 3 ≤ buffer.byteCount := by decide
  have hfive : 5 ≤ buffer.byteCount := by decide
  have hpair : buffer.point 3 = .ok ⟨0, 3⟩ := by rfl
  have hseparator : buffer.point 5 = .ok ⟨1, 1⟩ := by rfl
  obtain ⟨-, -, hpoint, horder, -⟩ := offsets_match_points buffer
  obtain ⟨point, hpoint, -, -, hback, -⟩ := hpoint 5 hfive
  obtain rfl := Except.ok.inj (hpoint.symm.trans hseparator)
  exact ⟨hthree, hfive, hpair, hseparator, (horder 3 5 _ _ hpair hseparator).mpr (by decide), hback⟩

end Dimming.Proofs.OffsetPoints
