import Dimming.Proofs.Text.Bytes
import Mathlib.Order.Bounds.Basic

/-!
# Slices by byte offsets

An offset inside a character stands for the start of that character, which is the last boundary up to the
offset. Both ends of a slice are moved back in this way, each by itself. As the same offset is moved to the
same place wherever it is used, a slice goes on where the one before it stops.
-/

set_option autoImplicit false

namespace Dimming.Text

/-- The start of the character that an offset lies in; at a boundary, the offset itself. -/
def charStart (text : List Char) (offset : Nat) : Nat :=
  byteOffset text (charIndex text offset)

/-! ## The character of an offset -/

/-- No offset has more characters before it than the text has. -/
theorem charIndex_le_length (text : List Char) (offset : Nat) :
    charIndex text offset ≤ text.length := by
  induction text generalizing offset with
  | nil => exact Nat.le_refl 0
  | cons c rest ih =>
    rw [charIndex, List.length_cons]
    split
    · exact Nat.succ_le_succ (ih _)
    · exact Nat.zero_le _

/-- A later offset lies in the same character or in a later one. -/
theorem charIndex_mono (text : List Char) {offset other : Nat} (h : offset ≤ other) :
    charIndex text offset ≤ charIndex text other := by
  induction text generalizing offset other with
  | nil => exact Nat.le_refl 0
  | cons c rest ih =>
    rw [charIndex, charIndex]
    split
    · next hsize =>
      rw [if_pos (Nat.le_trans hsize h)]
      exact Nat.succ_le_succ (ih (Nat.sub_le_sub_right h _))
    · exact Nat.zero_le _

/-- No character lies before the start. -/
theorem charIndex_zero (text : List Char) : charIndex text 0 = 0 :=
  charIndex_byteLength [] text

/-- All characters lie before the end. -/
theorem charIndex_end (text : List Char) : charIndex text (byteLength text) = text.length := by
  have h := charIndex_byteLength text []
  rwa [List.append_nil] at h

/-! ## The start of a character -/

/-- A character starts at an offset in it or before. -/
theorem charStart_le (text : List Char) (offset : Nat) : charStart text offset ≤ offset := by
  induction text generalizing offset with
  | nil => exact Nat.zero_le _
  | cons c rest ih =>
    rw [charStart, charIndex]
    split
    · next hsize =>
      have hrest := ih (offset - c.utf8Size)
      rw [charStart] at hrest
      rw [byteOffset, List.take_succ_cons, byteLength_cons]
      rw [byteOffset] at hrest
      omega
    · exact Nat.zero_le _

/-- The offset inside a character and its start lie in the same character. -/
theorem charIndex_charStart (text : List Char) (offset : Nat) :
    charIndex text (charStart text offset) = charIndex text offset := by
  have h := charIndex_byteLength (text.take (charIndex text offset))
    (text.drop (charIndex text offset))
  rw [List.take_append_drop, List.length_take_of_le (charIndex_le_length text offset)] at h
  exact h

/-- A boundary is where its character starts. -/
theorem charStart_of_isBoundary {text : List Char} {offset : Nat} (h : IsBoundary text offset) :
    charStart text offset = offset := by
  obtain ⟨front, back, rfl, rfl⟩ := h
  rw [charStart, byteOffset, take_charIndex]

/-- A later character starts at a later offset. -/
theorem byteOffset_mono (text : List Char) {index other : Nat} (h : index ≤ other) :
    byteOffset text index ≤ byteOffset text other := by
  rw [byteOffset, byteOffset, ← take_append_drop_take text h, byteLength_append]
  exact Nat.le_add_right _ _

/-- The start of the character of an offset is the last boundary up to the offset. -/
theorem isGreatest_charStart (text : List Char) (offset : Nat) :
    IsGreatest {boundary | IsBoundary text boundary ∧ boundary ≤ offset} (charStart text offset) := by
  constructor
  · exact ⟨isBoundary_byteOffset text _, charStart_le text offset⟩
  · rintro boundary ⟨hboundary, hle⟩
    calc boundary = charStart text boundary := (charStart_of_isBoundary hboundary).symm
      _ ≤ charStart text offset := byteOffset_mono text (charIndex_mono text hle)

/-! ## Slices -/

/-- A slice is the one between the starts of the characters that its ends lie in. -/
theorem byteSlice_charStart (text : List Char) (start stop : Nat) :
    byteSlice text (charStart text start) (charStart text stop) = byteSlice text start stop := by
  rw [byteSlice, byteSlice, charIndex_charStart, charIndex_charStart]

/-- The bytes of a slice are those between the starts of the characters that its ends lie in. -/
theorem utf8_byteSlice_charStart (text : List Char) {start stop : Nat} (h : start ≤ stop) :
    utf8 (byteSlice text start stop) =
      ((utf8 text).take (charStart text stop)).drop (charStart text start) := by
  rw [← byteSlice_charStart]
  exact utf8_byteSlice (isBoundary_byteOffset text _) (isBoundary_byteOffset text _)
    (byteOffset_mono text (charIndex_mono text h))

/-- Slices that meet make one slice. -/
theorem byteSlice_append (text : List Char) {start middle stop : Nat} (hstart : start ≤ middle)
    (hstop : middle ≤ stop) :
    byteSlice text start middle ++ byteSlice text middle stop = byteSlice text start stop := by
  have hfirst := charIndex_mono text hstart
  have hsecond := charIndex_mono text hstop
  have hfront : charIndex text start ≤ (text.take (charIndex text middle)).length := by
    rw [List.length_take_of_le (charIndex_le_length text middle)]
    exact hfirst
  rw [byteSlice, byteSlice, byteSlice, ← List.drop_append_of_le_length hfront,
    take_append_drop_take text hsecond]

/-- The slice from the start to the end is the whole text. -/
theorem byteSlice_whole (text : List Char) : byteSlice text 0 (byteLength text) = text := by
  rw [byteSlice, charIndex_zero, charIndex_end, List.take_length, List.drop_zero]

end Dimming.Text
