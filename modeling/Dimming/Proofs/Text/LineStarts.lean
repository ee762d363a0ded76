import Dimming.Proofs.Text.Points

/-!
# Rows and the starts of lines

The lines of a text start at its beginning and behind each of its line breaks, one after the other. An
offset therefore lies in one row only, the last one that starts at the offset or before it, and it is
known again from its point: the offset is the start of the row and the column together. Of two offsets
the later one has the later point.
-/

set_option autoImplicit false

namespace Dimming

/-- A point comes before another in the order of rows, and of columns within a row. -/
def Point.Before (point other : Point) : Prop :=
  point.row < other.row ∨ point.row = other.row ∧ point.column < other.column

namespace Text

/-- The characters that end lines: line feed, vertical tab, form feed, carriage return, next line, line
separator and paragraph separator. -/
def lineBreaks : List Char :=
  ['\n', '\u000b', '\u000c', '\r', '\u0085', '\u2028', '\u2029']

/-- A line of a text ends right before an offset. A carriage return ends no line when a line feed comes
next: the line feed does. -/
def LineEndsAt (text : List Char) (offset : Nat) : Prop :=
  ∃ front c back, text = front ++ c :: back ∧ c ∈ lineBreaks ∧
    ¬ (c = '\r' ∧ back.head? = some '\n') ∧ byteLength (front ++ [c]) = offset

/-! ## Where lines start -/

/-- The line breaks are those that are listed. -/
theorem isLineBreak_iff {c : Char} : isLineBreak c = true ↔ c ∈ lineBreaks := by
  have hcode : ∀ d : Char, c.toNat = d.toNat ↔ c = d := fun d =>
    ⟨fun h => Char.ext (UInt32.toNat_inj.mp h), fun h => congrArg Char.toNat h⟩
  simp only [isLineBreak, lineBreaks, Bool.or_eq_true, beq_iff_eq, List.mem_cons,
    List.not_mem_nil, or_false, ← hcode, or_assoc]
  rfl

/-- A line ends at a line break, except between a carriage return and a line feed. -/
theorem endsLine_iff {c : Char} {next : Option Char} :
    endsLine c next = true ↔ c ∈ lineBreaks ∧ ¬ (c = '\r' ∧ next = some '\n') := by
  simp only [endsLine, Bool.and_eq_true, isLineBreak_iff, Bool.not_eq_true', Bool.and_eq_false_iff,
    beq_eq_false_iff_ne, not_and_or]

/-- Lines end behind the characters that end them. -/
theorem mem_lineEnds {offset ends : Nat} {text : List Char} :
    ends ∈ lineEnds none offset text ↔
      ∃ front c back, text = front ++ c :: back ∧ endsLine c back.head? = true ∧
        offset + byteLength (front ++ [c]) = ends := by
  induction text generalizing offset with
  | nil => simp [lineEnds]
  | cons d rest ih =>
    -- the line that ends is that of the first character, or one of the rest
    have hcons : ends ∈ lineEnds none offset (d :: rest) ↔
        (endsLine d rest.head? = true ∧ offset + d.utf8Size = ends) ∨
          ends ∈ lineEnds none (offset + d.utf8Size) rest := by
      rw [lineEnds, Option.or_none]
      split
      · next h => simp [h, eq_comm]
      · next h => simp [h]
    rw [hcons, ih]
    constructor
    · rintro (⟨hends, rfl⟩ | ⟨front, c, back, rfl, hends, rfl⟩)
      · exact ⟨[], d, rest, rfl, hends, by simp⟩
      · exact ⟨d :: front, c, back, rfl, hends, by simp [Nat.add_assoc]⟩
    · rintro ⟨front, c, back, hsplit, hends, rfl⟩
      cases front with
      | nil =>
        obtain ⟨rfl, rfl⟩ := List.cons.inj hsplit
        exact Or.inl ⟨hends, by simp⟩
      | cons e front =>
        obtain ⟨rfl, rfl⟩ := List.cons.inj hsplit
        exact Or.inr ⟨front, c, back, rfl, hends, by simp [Nat.add_assoc]⟩

/-- Lines start at the beginning of a text and where a line has ended. -/
theorem mem_lineStarts {text : List Char} {start : Nat} :
    start ∈ lineStarts text ↔ start = 0 ∨ LineEndsAt text start := by
  rw [lineStarts, List.mem_cons, laterLineStarts_eq_lineEnds, mem_lineEnds]
  simp only [endsLine_iff, LineEndsAt, Nat.zero_add, and_assoc]

/-- The ends of lines are listed in order. -/
theorem pairwise_lineEnds (next : Option Char) (offset : Nat) (text : List Char) :
    (lineEnds next offset text).Pairwise (· < ·) := by
  induction text generalizing offset with
  | nil => exact .nil
  | cons c rest ih =>
    rw [lineEnds]
    split
    · exact .cons (fun ends hends => (bounds_of_mem_lineEnds hends).1) (ih _)
    · exact ih _

/-- Lines start one after the other. -/
theorem pairwise_lineStarts (text : List Char) : (lineStarts text).Pairwise (· < ·) := by
  rw [lineStarts, laterLineStarts_eq_lineEnds]
  exact .cons (fun ends hends => (bounds_of_mem_lineEnds hends).1) (pairwise_lineEnds none 0 text)

/-! ## The row of an offset -/

/-- In an ascending list the numbers up to a bound come first. -/
theorem getElem_le_iff {numbers : List Nat} (h : numbers.Pairwise (· < ·)) (bound : Nat)
    {place : Nat} (hplace : place < numbers.length) :
    numbers[place] ≤ bound ↔ place < numbers.countP (fun number => decide (number ≤ bound)) := by
  induction numbers generalizing place with
  | nil => cases hplace
  | cons first rest ih =>
    obtain ⟨hfirst, hrest⟩ := List.pairwise_cons.mp h
    by_cases hle : first ≤ bound
    · rw [List.countP_cons_of_pos (by simpa using hle)]
      cases place with
      | zero => simp [hle]
      | succ place =>
        rw [List.getElem_cons_succ, ih hrest (Nat.lt_of_succ_lt_succ hplace)]
        exact Nat.succ_lt_succ_iff.symm
    · -- what is behind the first number is larger still
      have hnone : ∀ number ∈ first :: rest, ¬ number ≤ bound := by
        intro number hmem
        rcases List.mem_cons.mp hmem with rfl | hmem
        · exact hle
        · have hlt := hfirst number hmem
          omega
      have hcount : (first :: rest).countP (fun number => decide (number ≤ bound)) = 0 :=
        List.countP_eq_zero.mpr fun number hmem => by simpa using hnone number hmem
      rw [hcount]
      simp [hnone _ (List.getElem_mem hplace)]

/-- The rows that start at an offset or before it are those up to the row of the offset. -/
theorem rowStart_le_iff (text : List Char) (offset : Nat) {row : Nat} (h : row < lineCount text) :
    rowStart text row ≤ offset ↔ row ≤ rowAt text offset := by
  have hcount : (lineStarts text).countP (fun start => decide (start ≤ offset)) =
      rowAt text offset + 1 := by
    rw [lineStarts, List.countP_cons_of_pos (by simp), rowAt]
  have hrow : row < (lineStarts text).length := h
  have hstart : rowStart text row = (lineStarts text)[row] := by
    rw [rowStart, List.getD_eq_getElem?_getD, List.getElem?_eq_getElem hrow, Option.getD_some]
  rw [hstart, getElem_le_iff (pairwise_lineStarts text) offset hrow, hcount, Nat.lt_succ_iff]

/-- The row of an offset is one of the lines. -/
theorem rowAt_lt_lineCount (text : List Char) (offset : Nat) :
    rowAt text offset < lineCount text := by
  rw [lineCount, lineStarts, List.length_cons, Nat.lt_succ_iff]
  exact List.countP_le_length

/-- The row of an offset starts at the offset or before it. -/
theorem rowStart_rowAt_le (text : List Char) (offset : Nat) :
    rowStart text (rowAt text offset) ≤ offset :=
  (rowStart_le_iff text offset (rowAt_lt_lineCount text offset)).mpr (Nat.le_refl _)

/-- A later offset does not have an earlier row. -/
theorem rowAt_mono (text : List Char) {offset other : Nat} (h : offset ≤ other) :
    rowAt text offset ≤ rowAt text other := by
  rw [← rowStart_le_iff text other (rowAt_lt_lineCount text offset)]
  exact Nat.le_trans (rowStart_rowAt_le text offset) h

/-! ## The point of an offset -/

/-- An offset is the start of its row and its column together. -/
theorem rowStart_add_column (text : List Char) (offset : Nat) :
    rowStart text (pointAt text offset).row + (pointAt text offset).column = offset :=
  Nat.add_sub_cancel' (rowStart_rowAt_le text offset)

/-- A later offset has a later point. -/
theorem before_of_lt (text : List Char) {offset other : Nat} (h : offset < other) :
    (pointAt text offset).Before (pointAt text other) := by
  rcases Nat.lt_or_eq_of_le (rowAt_mono text (Nat.le_of_lt h)) with hrow | hrow
  · exact Or.inl hrow
  · -- in one row the columns are counted from one start
    have hoffset := rowStart_add_column text offset
    have hother := rowStart_add_column text other
    have hsame : (pointAt text offset).row = (pointAt text other).row := hrow
    rw [hsame] at hoffset
    exact Or.inr ⟨hsame, by omega⟩

/-- Points are in the order of their offsets. -/
theorem before_iff_lt (text : List Char) (offset other : Nat) :
    (pointAt text offset).Before (pointAt text other) ↔ offset < other := by
  refine ⟨fun h => ?_, before_of_lt text⟩
  by_contra hle
  rcases Nat.lt_or_eq_of_le (Nat.not_lt.mp hle) with hlt | rfl
  · have hback := before_of_lt text hlt
    simp only [Point.Before] at h hback
    omega
  · simp [Point.Before] at h

end Text

end Dimming
