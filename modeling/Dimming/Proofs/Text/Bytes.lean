import Dimming.Text.Lines
import Mathlib.Tactic.Common

/-!
# Bytes and characters

A byte offset is a boundary of a text when it does not lie inside a character: the text falls into a
front of that many bytes and the rest. Between boundaries, what is cut out of the text by characters and
what is cut out of its bytes are the same. Away from boundaries offsets move back to a character's start.
-/

set_option autoImplicit false

namespace Dimming.Text

/-- The bytes of a text in UTF-8. -/
def utf8 (text : List Char) : List UInt8 := text.flatMap String.utf8EncodeChar

/-- An offset does not lie inside a character of a text, nor behind its end. -/
def IsBoundary (text : List Char) (offset : Nat) : Prop :=
  ∃ front back, text = front ++ back ∧ byteLength front = offset

/-! ## Lengths -/

/-- The empty text has no bytes. -/
@[simp]
theorem byteLength_nil : byteLength [] = 0 := rfl

/-- A text has the bytes of its first character and those of the rest. -/
@[simp]
theorem byteLength_cons (c : Char) (text : List Char) :
    byteLength (c :: text) = c.utf8Size + byteLength text := rfl

/-- The bytes of texts that stand side by side add up. -/
@[simp]
theorem byteLength_append (front back : List Char) :
    byteLength (front ++ back) = byteLength front + byteLength back := by
  induction front with
  | nil => simp
  | cons c front ih =>
    rw [List.cons_append, byteLength_cons, byteLength_cons, ih]
    omega

/-- A text has as many bytes as its byte length says. -/
@[simp]
theorem length_utf8 (text : List Char) : (utf8 text).length = byteLength text := by
  induction text with
  | nil => rfl
  | cons c text ih =>
    have hcons : utf8 (c :: text) = String.utf8EncodeChar c ++ utf8 text := rfl
    rw [hcons, List.length_append, String.length_utf8EncodeChar, ih, byteLength_cons]

/-- The bytes of two texts, one after the other, are those of the one and then those of the other. -/
@[simp]
theorem utf8_append (front back : List Char) : utf8 (front ++ back) = utf8 front ++ utf8 back :=
  List.flatMap_append

/-- A string has as many bytes as its characters have. -/
theorem utf8ByteSize_ofList (text : List Char) :
    (String.ofList text).utf8ByteSize = byteLength text := by
  have hbytes : (String.ofList text).toByteArray = (utf8 text).toByteArray :=
    String.toByteArray_ofList
  rw [← String.size_toByteArray, hbytes, List.size_toByteArray, length_utf8]

/-- Only the text without characters has no bytes. -/
theorem byteLength_eq_zero {text : List Char} : byteLength text = 0 ↔ text = [] := by
  constructor
  · intro h
    cases text with
    | nil => rfl
    | cons c text =>
      have hpos := c.utf8Size_pos
      rw [byteLength_cons] at h
      omega
  · rintro rfl
    rfl

/-- Behind the characters up to one index come those from there up to a later one. -/
theorem take_append_drop_take (text : List Char) {start stop : Nat} (h : start ≤ stop) :
    text.take start ++ (text.take stop).drop start = text.take stop := by
  have hfront : (text.take stop).take start = text.take start := by
    rw [List.take_take, Nat.min_eq_left h]
  rw [← hfront, List.take_append_drop]

/-! ## Boundaries -/

/-- The start of a character is a boundary. -/
theorem isBoundary_byteOffset (text : List Char) (index : Nat) :
    IsBoundary text (byteOffset text index) :=
  ⟨text.take index, text.drop index, (List.take_append_drop index text).symm, rfl⟩

/-- A boundary lies within the text. -/
theorem IsBoundary.le_byteLength {text : List Char} {offset : Nat} (h : IsBoundary text offset) :
    offset ≤ byteLength text := by
  obtain ⟨front, back, rfl, rfl⟩ := h
  rw [byteLength_append]
  omega

/-- A boundary of the back part is one of the whole text. -/
theorem IsBoundary.append_left {text : List Char} {offset : Nat} (h : IsBoundary text offset)
    (before : List Char) : IsBoundary (before ++ text) (byteLength before + offset) := by
  obtain ⟨front, back, rfl, rfl⟩ := h
  exact ⟨before ++ front, back, (List.append_assoc _ _ _).symm, byteLength_append _ _⟩

/-- A boundary of the front part is one of the whole text. -/
theorem IsBoundary.append_right {text : List Char} {offset : Nat} (h : IsBoundary text offset)
    (after : List Char) : IsBoundary (text ++ after) offset := by
  obtain ⟨front, back, rfl, rfl⟩ := h
  exact ⟨front, back ++ after, List.append_assoc _ _ _, rfl⟩

/-- At a boundary the character index is the length of the front. -/
theorem charIndex_byteLength (front back : List Char) :
    charIndex (front ++ back) (byteLength front) = front.length := by
  induction front with
  | nil =>
    cases back with
    | nil => rfl
    | cons c back =>
      have hpos : ¬ c.utf8Size ≤ 0 := Nat.not_le.mpr c.utf8Size_pos
      simp only [List.nil_append, byteLength_nil, charIndex, if_neg hpos, List.length_nil]
  | cons c front ih =>
    have hle : c.utf8Size ≤ c.utf8Size + byteLength front := Nat.le_add_right _ _
    rw [List.cons_append, byteLength_cons, charIndex, if_pos hle, Nat.add_sub_cancel_left, ih,
      List.length_cons]

/-- The characters before a boundary are the front. -/
theorem take_charIndex (front back : List Char) :
    (front ++ back).take (charIndex (front ++ back) (byteLength front)) = front := by
  rw [charIndex_byteLength, List.take_left']
  rfl

/-- Two boundaries cut a text into three. -/
theorem exists_split {text : List Char} {start stop : Nat} (hstart : IsBoundary text start)
    (hstop : IsBoundary text stop) (hle : start ≤ stop) :
    ∃ front middle back, text = front ++ middle ++ back ∧ byteLength front = start ∧
      byteLength (front ++ middle) = stop := by
  obtain ⟨front, rest, rfl, rfl⟩ := hstart
  obtain ⟨whole, back, hsplit, rfl⟩ := hstop
  rcases List.append_eq_append_iff.mp hsplit with ⟨middle, rfl, rfl⟩ | ⟨extra, rfl, rfl⟩
  · exact ⟨front, middle, back, (List.append_assoc _ _ _).symm, rfl, rfl⟩
  · -- the second boundary cannot lie before the first one unless both are the same
    rw [byteLength_append] at hle
    have hextra : extra = [] := byteLength_eq_zero.mp (by omega)
    subst hextra
    exact ⟨whole, [], rest, by simp, by simp, by simp⟩

/-- What is cut out by characters is what is cut out of the bytes. -/
theorem utf8_byteSlice {text : List Char} {start stop : Nat} (hstart : IsBoundary text start)
    (hstop : IsBoundary text stop) (hle : start ≤ stop) :
    utf8 (byteSlice text start stop) = ((utf8 text).take stop).drop start := by
  obtain ⟨front, middle, back, rfl, rfl, rfl⟩ := exists_split hstart hstop hle
  have htake : (front ++ middle ++ back).take
      (charIndex (front ++ middle ++ back) (byteLength (front ++ middle))) = front ++ middle :=
    take_charIndex (front ++ middle) back
  have hindex : charIndex (front ++ middle ++ back) (byteLength front) = front.length := by
    rw [List.append_assoc]
    exact charIndex_byteLength front (middle ++ back)
  have hslice : byteSlice (front ++ middle ++ back) (byteLength front)
      (byteLength (front ++ middle)) = middle := by
    rw [byteSlice, htake, hindex, List.drop_left']
    rfl
  have hbytes : (utf8 (front ++ middle ++ back)).take (byteLength (front ++ middle)) =
      utf8 (front ++ middle) := by
    rw [utf8_append, ← length_utf8, List.take_left']
    rfl
  rw [hslice, hbytes, utf8_append, ← length_utf8, List.drop_left']
  rfl

end Dimming.Text
