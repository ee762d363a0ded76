import Dimming.Buffer
import Dimming.Proofs.Text.Slices

/-!
# Slices of a buffer

A slice is refused when its ends are out of order or behind the last byte, and for no other reason. Slices
that meet tile the text between the first start and the last stop, wherever they meet.
-/

set_option autoImplicit false

namespace Dimming

open Text

namespace Buffer

variable {buffer : Buffer} {start stop : Nat}

/-- A slice inside the text is the text between its bounds. -/
theorem slice_eq_ok (hle : start ≤ stop) (hstop : stop ≤ buffer.byteCount) :
    buffer.slice start stop = .ok (String.ofList (byteSlice buffer.chars start stop)) :=
  if_neg (not_or.mpr ⟨Nat.not_lt.mpr hle, Nat.not_lt.mpr hstop⟩)

/-- A slice is refused for its range alone: the bounds are in the wrong order, or the text is too short. -/
theorem slice_eq_error_iff {cause : BufferError} :
    buffer.slice start stop = .error cause ↔
      cause = .invalidRange start stop ∧ (stop < start ∨ buffer.byteCount < stop) := by
  by_cases h : stop < start ∨ buffer.byteCount < stop
  · have hslice : buffer.slice start stop = .error (.invalidRange start stop) := if_pos h
    rw [hslice, Except.error.injEq, eq_comm, and_iff_left h]
  · obtain ⟨hle, hstop⟩ := not_or.mp h
    simp [slice_eq_ok (Nat.not_lt.mp hle) (Nat.not_lt.mp hstop), h]

end Buffer

end Dimming

namespace Dimming.Proofs.SliceTiles

open Text

/-- Two slices that meet, at a boundary or inside a character, make up the slice from the start of the
first to the stop of the second, and the slice of all bytes is the whole text. The bytes of a slice are
those between the starts of the characters that its ends lie in, hence between the ends themselves when
these are boundaries. A slice is refused exactly when its start is behind its stop or its stop is behind
the last byte. -/
theorem slices_tile (buffer : Buffer) :
    (∀ start middle stop, start ≤ middle → middle ≤ stop → stop ≤ buffer.byteCount →
      ∃ left right whole, buffer.slice start middle = .ok left ∧
        buffer.slice middle stop = .ok right ∧ buffer.slice start stop = .ok whole ∧
        left ++ right = whole) ∧
    buffer.slice 0 buffer.byteCount = .ok buffer.text ∧
    (∀ start stop, start ≤ stop → stop ≤ buffer.byteCount →
      ∃ covered, buffer.slice start stop = .ok covered ∧
        utf8 covered.toList =
          ((utf8 buffer.chars).take (charStart buffer.chars stop)).drop
            (charStart buffer.chars start) ∧
        (IsBoundary buffer.chars start → IsBoundary buffer.chars stop →
          utf8 covered.toList = ((utf8 buffer.chars).take stop).drop start)) ∧
    (∀ offset, IsGreatest {boundary | IsBoundary buffer.chars boundary ∧ boundary ≤ offset}
      (charStart buffer.chars offset)) ∧
    ∀ start stop cause, buffer.slice start stop = .error cause ↔
      cause = .invalidRange start stop ∧ (stop < start ∨ buffer.byteCount < stop) := by
  refine ⟨?_, ?_, ?_, isGreatest_charStart buffer.chars,
    fun start stop cause => Buffer.slice_eq_error_iff⟩
  · intro start middle stop hstart hstop hend
    refine ⟨_, _, _, Buffer.slice_eq_ok hstart (Nat.le_trans hstop hend),
      Buffer.slice_eq_ok hstop hend, Buffer.slice_eq_ok (Nat.le_trans hstart hstop) hend, ?_⟩
    rw [← String.ofList_append, byteSlice_append buffer.chars hstart hstop]
  · rw [Buffer.slice_eq_ok (Nat.zero_le _) (Nat.le_refl _), Buffer.text, Buffer.byteCount,
      byteSlice_whole]
  · intro start stop hle hstop
    refine ⟨_, Buffer.slice_eq_ok hle hstop, ?_, ?_⟩
    · rw [String.toList_ofList]
      exact utf8_byteSlice_charStart buffer.chars hle
    · intro hstart hend
      rw [String.toList_ofList]
      exact utf8_byteSlice hstart hend hle

/-- Slices that meet inside a letter of two bytes: the letter goes to the second one. -/
theorem slices_tile_inside :
    let buffer := Buffer.ofText "aéb"
    0 ≤ 2 ∧ 2 ≤ 4 ∧ 4 ≤ buffer.byteCount ∧ charStart buffer.chars 2 = 1 ∧
      ∃ left right whole, buffer.slice 0 2 = .ok left ∧ buffer.slice 2 4 = .ok right ∧
        buffer.slice 0 4 = .ok whole ∧ left ++ right = whole ∧ left = "a" ∧ right = "éb" := by
  intro buffer
  have hend : 4 ≤ buffer.byteCount := by decide
  obtain ⟨htile, -, -, -, -⟩ := slices_tile buffer
  obtain ⟨left, right, whole, hleft, hright, hwhole, happend⟩ :=
    htile 0 2 4 (by decide) (by decide) hend
  have hfront : buffer.slice 0 2 = .ok "a" := by rfl
  have hback : buffer.slice 2 4 = .ok "éb" := by rfl
  exact ⟨by decide, by decide, hend, by decide, left, right, whole, hleft, hright, hwhole, happend,
    Except.ok.inj (hleft.symm.trans hfront), Except.ok.inj (hright.symm.trans hback)⟩

end Dimming.Proofs.SliceTiles
