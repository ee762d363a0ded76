import Dimming.Proofs.Text.Bytes

/-!
# Lines across a seam

Whether a character ends a line is told by the character and the one behind it. So when a text falls into
a front and a back, the lines that end in the front are known from the front and the first character of
the back. The point of the seam is therefore a matter of the front alone, unless the front ends in a
carriage return: then it matters whether a line feed comes next, with which it would be one line break.
-/

set_option autoImplicit false

namespace Dimming.Text

/-- A character ends a line when `next` is what stands behind it. -/
def endsLine (c : Char) (next : Option Char) : Bool :=
  isLineBreak c && !(c == '\r' && next == some '\n')

/-- The offsets behind the lines that end in a text, when the text begins at `offset` and `next` stands
behind it. -/
def lineEnds (next : Option Char) (offset : Nat) : List Char → List Nat
  | [] => []
  | c :: rest =>
    if endsLine c (rest.head?.or next) then
      (offset + c.utf8Size) :: lineEnds next (offset + c.utf8Size) rest
    else lineEnds next (offset + c.utf8Size) rest

/-- The place before the character with a given index lies between a carriage return and a line feed. -/
def InsidePair (text : List Char) (index : Nat) : Prop :=
  (text.take index).getLast? = some '\r' ∧ (text.drop index).head? = some '\n'

instance (text : List Char) (index : Nat) : Decidable (InsidePair text index) :=
  inferInstanceAs (Decidable (_ ∧ _))

/-! ## Line ends -/

/-- Later lines start where lines end. -/
theorem laterLineStarts_eq_lineEnds (offset : Nat) (text : List Char) :
    laterLineStarts offset text = lineEnds none offset text := by
  induction text generalizing offset with
  | nil => rfl
  | cons c rest ih =>
    cases rest with
    | nil => simp [laterLineStarts, lineEnds, endsLine]
    | cons d rest =>
      rw [laterLineStarts, lineEnds, ih]
      simp [endsLine]

/-- The lines that end in a text end in its front or in its back. -/
theorem lineEnds_append (next : Option Char) (offset : Nat) (front back : List Char) :
    lineEnds next offset (front ++ back) =
      lineEnds (back.head?.or next) offset front ++
        lineEnds next (offset + byteLength front) back := by
  induction front generalizing offset with
  | nil => rfl
  | cons c front ih =>
    have hnext : (front ++ back).head?.or next = front.head?.or (back.head?.or next) := by
      rw [List.head?_append, Option.or_assoc]
    rw [List.cons_append, lineEnds, lineEnds, hnext, ih, byteLength_cons, Nat.add_assoc]
    split <;> rfl

/-- A line ends behind the start of the text and not behind its end. -/
theorem bounds_of_mem_lineEnds {next : Option Char} {offset ends : Nat} {text : List Char}
    (h : ends ∈ lineEnds next offset text) : offset < ends ∧ ends ≤ offset + byteLength text := by
  induction text generalizing offset with
  | nil => cases h
  | cons c rest ih =>
    have hpos := c.utf8Size_pos
    have hcons : ends = offset + c.utf8Size ∨ ends ∈ lineEnds next (offset + c.utf8Size) rest := by
      rw [lineEnds] at h
      split at h
      · exact List.mem_cons.mp h
      · exact Or.inr h
    rw [byteLength_cons]
    rcases hcons with rfl | hrest
    · omega
    · have hbounds := ih hrest
      omega

/-- One more character at the end of a text ends a line or does not. -/
theorem lineEnds_concat (next : Option Char) (offset : Nat) (front : List Char) (c : Char) :
    lineEnds next offset (front ++ [c]) =
      lineEnds (some c) offset front ++
        if endsLine c next then [offset + byteLength (front ++ [c])] else [] := by
  rw [lineEnds_append]
  simp [lineEnds, Nat.add_assoc]

/-! ## The point of a seam -/

/-- The point behind a text that has `next` behind it. -/
def seamPoint (front : List Char) (next : Option Char) : Point :=
  ⟨(lineEnds next 0 front).length, byteLength front - (lineEnds next 0 front).getLastD 0⟩

/-- The last line that ends in a text ends within it. -/
theorem getLastD_lineEnds_le (next : Option Char) (text : List Char) :
    (lineEnds next 0 text).getLastD 0 ≤ byteLength text := by
  rcases List.eq_nil_or_concat (lineEnds next 0 text) with hnil | ⟨init, last, hconcat⟩
  · simp [hnil]
  · have hmem : last ∈ lineEnds next 0 text := by simp [hconcat]
    have hbounds := bounds_of_mem_lineEnds hmem
    simp only [hconcat, List.concat_eq_append, List.getLastD_concat]
    omega

/-- Up to the first line that ends in the back, the row is that of the seam, and the columns go on. -/
theorem pointAt_append_add (front back : List Char) {inside : Nat}
    (hinside : ∀ ends ∈ lineEnds none (byteLength front) back, byteLength front + inside < ends) :
    pointAt (front ++ back) (byteLength front + inside) =
      ⟨(seamPoint front back.head?).row, (seamPoint front back.head?).column + inside⟩ := by
  have hstarts : laterLineStarts 0 (front ++ back) =
      lineEnds back.head? 0 front ++ lineEnds none (byteLength front) back := by
    rw [laterLineStarts_eq_lineEnds, lineEnds_append, Option.or_none, Nat.zero_add]
  have hrow : rowAt (front ++ back) (byteLength front + inside) =
      (lineEnds back.head? 0 front).length := by
    have hfront : ∀ ends ∈ lineEnds back.head? 0 front,
        decide (ends ≤ byteLength front + inside) = true := by
      intro ends hends
      have hbounds := bounds_of_mem_lineEnds hends
      exact decide_eq_true (by omega)
    have hback : ∀ ends ∈ lineEnds none (byteLength front) back,
        ¬ decide (ends ≤ byteLength front + inside) = true := by
      intro ends hends hle
      have hlt := hinside ends hends
      have hends_le := of_decide_eq_true hle
      omega
    rw [rowAt, hstarts, List.countP_append, List.countP_eq_length.mpr hfront,
      List.countP_eq_zero.mpr hback, Nat.add_zero]
  have hstart : rowStart (front ++ back) (lineEnds back.head? 0 front).length =
      (lineEnds back.head? 0 front).getLastD 0 := by
    rw [rowStart, lineStarts, hstarts]
    rcases List.eq_nil_or_concat (lineEnds back.head? 0 front) with hnil | ⟨init, last, hconcat⟩
    · rw [hnil]
      rfl
    · rw [hconcat]
      simp
  have hlast := getLastD_lineEnds_le back.head? front
  rw [pointAt, hrow, hstart, seamPoint, Point.mk.injEq]
  dsimp only
  exact ⟨rfl, by omega⟩

/-- The point of a seam is known from the front and the first character of the back. -/
theorem pointAt_append (front back : List Char) :
    pointAt (front ++ back) (byteLength front) = seamPoint front back.head? := by
  have hback : ∀ ends ∈ lineEnds none (byteLength front) back, byteLength front + 0 < ends :=
    fun ends hends => (bounds_of_mem_lineEnds hends).1
  exact pointAt_append_add front back hback

/-- What stands behind a character matters for the line it may end only in the case of a carriage return,
and then only whether it is a line feed. -/
theorem endsLine_eq_iff (c : Char) (next other : Option Char) :
    endsLine c next = endsLine c other ↔
      (c = '\r' → (next = some '\n' ↔ other = some '\n')) := by
  by_cases hc : c = '\r'
  · subst hc
    have hbreak : isLineBreak '\r' = true := by decide
    by_cases hnext : next = some '\n' <;> by_cases hother : other = some '\n' <;>
      simp [endsLine, hbreak, hnext, hother]
  · have hother : (c == '\r') = false := beq_eq_false_iff_ne.mpr hc
    simp [endsLine, hc, hother]

/-- What stands behind a text matters for the point of its end only when the text ends in a carriage
return, and then only whether it is a line feed. -/
theorem seamPoint_eq_iff (front : List Char) (next other : Option Char) :
    seamPoint front next = seamPoint front other ↔
      (front.getLast? = some '\r' → (next = some '\n' ↔ other = some '\n')) := by
  rcases List.eq_nil_or_concat front with rfl | ⟨init, c, hconcat⟩
  · simp [seamPoint, lineEnds]
  · rw [List.concat_eq_append] at hconcat
    subst hconcat
    have hlast : (init ++ [c]).getLast? = some '\r' ↔ c = '\r' := by simp
    rw [hlast, ← endsLine_eq_iff]
    constructor
    · -- a line more or less shows in the row
      intro h
      have hrow := congrArg Point.row h
      simp only [seamPoint, lineEnds_concat, List.length_append] at hrow
      cases hnext : endsLine c next <;> cases hother : endsLine c other <;> simp_all
    · intro h
      simp only [seamPoint, lineEnds_concat, h]

/-- In two texts that begin alike, the place where they begin to differ has one point, unless it lies
inside a line break of two characters in just one of them. -/
theorem pointAt_byteOffset_eq_iff {text other : List Char} {index : Nat}
    (h : other.take index = text.take index) :
    pointAt other (byteOffset text index) = pointAt text (byteOffset text index) ↔
      (InsidePair text index ↔ InsidePair other index) := by
  have hpoint : ∀ whole : List Char, whole.take index = text.take index →
      pointAt whole (byteOffset text index) =
        seamPoint (text.take index) (whole.drop index).head? := by
    intro whole hwhole
    have hseam := pointAt_append (whole.take index) (whole.drop index)
    rw [List.take_append_drop, hwhole] at hseam
    exact hseam
  rw [hpoint other h, hpoint text rfl, seamPoint_eq_iff, InsidePair, InsidePair, h]
  tauto

end Dimming.Text
