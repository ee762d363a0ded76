import Dimming.Proofs.Text.Points
import Mathlib.Data.List.Induction

/-!
# Rows that only line feeds end

Some readers of a text know one line break, the line feed. For them the row of a place is the number of
line feeds in the bytes before it, and its column is the number of bytes since the last of them. The
points of a text agree with theirs up to the first other line break, and there only: from a vertical tab
or form feed on, from a next line, a line separator or paragraph separator on, and from a carriage return
on that has no line feed behind it, the row of a point is too large.
-/

set_option autoImplicit false

namespace Dimming.Text

/-- The byte of a line feed. -/
def lineFeed : UInt8 := 0x0A

/-- The point behind some bytes, when line feeds alone end rows: how many line feeds there are, and how
many bytes stand behind the last of them. -/
def feedPoint (bytes : List UInt8) : Point :=
  ⟨bytes.count lineFeed, (bytes.reverse.takeWhile (· != lineFeed)).length⟩

/-- Every line of a text that ends at an offset or before it ends in a line feed. -/
def OnlyFeeds (text : List Char) (offset : Nat) : Prop :=
  ∀ front c back, text = front ++ c :: back → byteLength (front ++ [c]) ≤ offset →
    endsLine c back.head? = true → c = '\n'

/-- Every line that ends in a text with `next` behind it ends in a line feed. -/
def FeedsAlone (text : List Char) (next : Option Char) : Prop :=
  ∀ front c back, text = front ++ c :: back → endsLine c (back.head?.or next) = true → c = '\n'

/-! ## Line feeds among the bytes -/

/-- A byte of the upper half is no line feed. -/
theorem lineFeed_ne_ofNat {n : Nat} (hlow : 128 ≤ n) (hhigh : n < 256) :
    lineFeed ≠ UInt8.ofNat n := by
  intro h
  have hnat := congrArg UInt8.toNat h
  simp [lineFeed] at hnat
  omega

/-- Only the line feed has the byte of a line feed in it. -/
theorem lineFeed_mem_utf8EncodeChar {c : Char} :
    lineFeed ∈ String.utf8EncodeChar c ↔ c = '\n' := by
  constructor
  · intro h
    unfold String.utf8EncodeChar at h
    simp only at h
    split at h
    · have hbyte := congrArg UInt8.toNat (List.mem_singleton.mp h)
      have hcode : c.val.toNat = 10 := by
        simp [lineFeed] at hbyte
        have htoNat : c.toNat = c.val.toNat := rfl
        omega
      exact Char.ext (UInt32.toNat_inj.mp hcode)
    · -- every byte of a longer character has its highest bit set
      split at h
      · simp only [List.mem_cons, List.not_mem_nil, or_false] at h
        rcases h with h | h <;> exact absurd h (lineFeed_ne_ofNat (by omega) (by omega))
      · split at h
        · simp only [List.mem_cons, List.not_mem_nil, or_false] at h
          rcases h with h | h | h <;> exact absurd h (lineFeed_ne_ofNat (by omega) (by omega))
        · simp only [List.mem_cons, List.not_mem_nil, or_false] at h
          rcases h with h | h | h | h <;>
            exact absurd h (lineFeed_ne_ofNat (by omega) (by omega))
  · rintro rfl
    decide

/-- Bytes without a line feed lengthen the last row. -/
theorem feedPoint_append {bytes more : List UInt8} (h : lineFeed ∉ more) :
    feedPoint (bytes ++ more) =
      ⟨(feedPoint bytes).row, (feedPoint bytes).column + more.length⟩ := by
  have hmore : ∀ byte ∈ more.reverse, (byte != lineFeed) = true := by
    intro byte hbyte
    rw [List.mem_reverse] at hbyte
    rw [bne_iff_ne]
    rintro rfl
    exact h hbyte
  simp only [feedPoint, List.count_append, List.count_eq_zero_of_not_mem h, Nat.add_zero,
    List.reverse_append, List.takeWhile_append_of_pos hmore, List.length_append,
    List.length_reverse, Nat.add_comm]

/-- A line feed starts a new row. -/
theorem feedPoint_concat_lineFeed (bytes : List UInt8) :
    feedPoint (bytes ++ [lineFeed]) = ⟨(feedPoint bytes).row + 1, 0⟩ := by
  simp [feedPoint]

/-- One more character is one more row or as many more columns as it has bytes. -/
theorem feedPoint_utf8_concat (front : List Char) (c : Char) :
    feedPoint (utf8 (front ++ [c])) =
      if c = '\n' then ⟨(feedPoint (utf8 front)).row + 1, 0⟩
      else ⟨(feedPoint (utf8 front)).row, (feedPoint (utf8 front)).column + c.utf8Size⟩ := by
  have hsingle : utf8 [c] = String.utf8EncodeChar c := by simp [utf8]
  rw [utf8_append, hsingle]
  split
  · next hc =>
    subst hc
    exact feedPoint_concat_lineFeed (utf8 front)
  · next hc =>
    rw [feedPoint_append (mt lineFeed_mem_utf8EncodeChar.mp hc), String.length_utf8EncodeChar]

/-! ## The point of a seam -/

/-- A character that ends a line starts a new row, and any other one lengthens the last row. -/
theorem seamPoint_concat (front : List Char) (c : Char) (next : Option Char) :
    seamPoint (front ++ [c]) next =
      if endsLine c next then ⟨(seamPoint front (some c)).row + 1, 0⟩
      else ⟨(seamPoint front (some c)).row, (seamPoint front (some c)).column + c.utf8Size⟩ := by
  have hlast := getLastD_lineEnds_le (some c) front
  rw [seamPoint, lineEnds_concat]
  split
  · simp [seamPoint]
  · simp only [List.append_nil, byteLength_append, byteLength_cons, byteLength_nil, seamPoint,
      Point.mk.injEq, true_and]
    omega

/-- Only line feeds end lines in a text when it is so before its last character and at it. -/
theorem feedsAlone_concat {front : List Char} {c : Char} {next : Option Char} :
    FeedsAlone (front ++ [c]) next ↔
      FeedsAlone front (some c) ∧ (endsLine c next = true → c = '\n') := by
  constructor
  · intro h
    refine ⟨?_, fun hends => h front c [] rfl hends⟩
    rintro before d back rfl hends
    have hnext : (back ++ [c]).head?.or next = back.head?.or (some c) := by
      rw [List.head?_append, Option.or_assoc]
      rfl
    exact h before d (back ++ [c]) (by simp) (by rw [hnext]; exact hends)
  · rintro ⟨hfront, hlast⟩ before d back hsplit hends
    rcases List.eq_nil_or_concat back with rfl | ⟨middle, e, rfl⟩
    · obtain ⟨rfl, hchar⟩ := List.append_inj' hsplit rfl
      obtain rfl := List.singleton_inj.mp hchar
      exact hlast hends
    · rw [List.concat_eq_append] at hsplit hends
      have hparts : front ++ [c] = (before ++ d :: middle) ++ [e] := by simpa using hsplit
      obtain ⟨rfl, hchar⟩ := List.append_inj' hparts rfl
      obtain rfl := List.singleton_inj.mp hchar
      have hnext : (middle ++ [c]).head?.or next = middle.head?.or (some c) := by
        rw [List.head?_append, Option.or_assoc]
        rfl
      rw [hnext] at hends
      exact hfront before d middle rfl hends

/-- A row is never too small, and it is right only where line feeds alone have ended lines. -/
theorem feedPoint_row_le (front : List Char) (next : Option Char) :
    (feedPoint (utf8 front)).row ≤ (seamPoint front next).row ∧
      ((seamPoint front next).row = (feedPoint (utf8 front)).row → FeedsAlone front next) := by
  induction front using List.reverseRecOn generalizing next with
  | nil =>
    refine ⟨Nat.le_refl _, fun _ => ?_⟩
    intro before c back hsplit
    simp at hsplit
  | append_singleton front c ih =>
    obtain ⟨hle, halone⟩ := ih (some c)
    have hfeed : c = '\n' → endsLine c next = true := by
      rintro rfl
      rfl
    rw [seamPoint_concat, feedPoint_utf8_concat, feedsAlone_concat]
    by_cases hc : c = '\n'
    · rw [if_pos (hfeed hc), if_pos hc]
      dsimp only
      exact ⟨by omega, fun hrow => ⟨halone (by omega), fun _ => hc⟩⟩
    · rw [if_neg hc]
      cases hends : endsLine c next with
      | true =>
        rw [if_pos rfl]
        dsimp only
        exact ⟨by omega, fun hrow => by omega⟩
      | false =>
        rw [if_neg Bool.false_ne_true]
        dsimp only
        exact ⟨hle, fun hrow => ⟨halone hrow, nofun⟩⟩

/-- Where only line feeds end lines, the point is the one that counts line feeds. -/
theorem seamPoint_of_feedsAlone {front : List Char} {next : Option Char}
    (h : FeedsAlone front next) : seamPoint front next = feedPoint (utf8 front) := by
  induction front using List.reverseRecOn generalizing next with
  | nil => rfl
  | append_singleton front c ih =>
    obtain ⟨hfront, hlast⟩ := feedsAlone_concat.mp h
    rw [seamPoint_concat, feedPoint_utf8_concat, ih hfront]
    by_cases hc : c = '\n'
    · subst hc
      rfl
    · rw [if_neg (mt hlast hc), if_neg hc]

/-! ## The point of any offset -/

/-- An offset in a text lies before or in some character, or at the end. -/
theorem exists_front (text : List Char) (offset : Nat) (h : offset ≤ byteLength text) :
    ∃ front back inside, text = front ++ back ∧ offset = byteLength front + inside ∧
      (inside = 0 ∨ ∃ c rest, back = c :: rest ∧ inside < c.utf8Size) := by
  induction text generalizing offset with
  | nil => exact ⟨[], [], 0, rfl, by simpa using h, Or.inl rfl⟩
  | cons c text ih =>
    by_cases hsize : offset < c.utf8Size
    · exact ⟨[], c :: text, offset, rfl, by simp, Or.inr ⟨c, text, rfl, hsize⟩⟩
    · rw [byteLength_cons] at h
      obtain ⟨front, back, inside, hsplit, hoffset, hinside⟩ := ih (offset - c.utf8Size) (by omega)
      have hsum : offset = c.utf8Size + byteLength front + inside := by
        clear hinside
        omega
      exact ⟨c :: front, back, inside, by rw [hsplit, List.cons_append], hsum, hinside⟩

/-- No line ends inside a character. -/
theorem lt_of_mem_lineEnds {back : List Char} {inside : Nat}
    (h : inside = 0 ∨ ∃ c rest, back = c :: rest ∧ inside < c.utf8Size) {next : Option Char}
    {offset ends : Nat} (hends : ends ∈ lineEnds next offset back) : offset + inside < ends := by
  rcases h with rfl | ⟨c, rest, rfl, hsize⟩
  · exact (bounds_of_mem_lineEnds hends).1
  · rw [lineEnds] at hends
    have hrest : ends ∈ lineEnds next (offset + c.utf8Size) rest → offset + inside < ends := by
      intro hmem
      have hbounds := bounds_of_mem_lineEnds hmem
      omega
    split at hends
    · rcases List.mem_cons.mp hends with rfl | hmem
      · omega
      · exact hrest hmem
    · exact hrest hends

/-- The bytes of a character that lie before an offset inside it are no line feeds. -/
theorem take_utf8_inside {back : List Char} {inside : Nat}
    (h : inside = 0 ∨ ∃ c rest, back = c :: rest ∧ inside < c.utf8Size) :
    ((utf8 back).take inside).length = inside ∧ lineFeed ∉ (utf8 back).take inside := by
  rcases h with rfl | ⟨c, rest, rfl, hsize⟩
  · simp
  · have htake : (utf8 (c :: rest)).take inside = (String.utf8EncodeChar c).take inside := by
      have hcons : utf8 (c :: rest) = String.utf8EncodeChar c ++ utf8 rest := rfl
      rw [hcons, List.take_append_of_le_length]
      rw [String.length_utf8EncodeChar]
      omega
    rw [htake]
    constructor
    · rw [List.length_take, String.length_utf8EncodeChar]
      omega
    · intro hmem
      -- a line feed is one byte long and has no inside
      have hc := lineFeed_mem_utf8EncodeChar.mp (List.mem_of_mem_take hmem)
      subst hc
      have hzero : inside = 0 := by
        have hone : '\n'.utf8Size = 1 := by decide
        omega
      simp [hzero] at hmem

/-- Line feeds alone have ended lines before an offset when this is so before the character that it lies
in. -/
theorem onlyFeeds_append {front back : List Char} {inside : Nat}
    (h : inside = 0 ∨ ∃ c rest, back = c :: rest ∧ inside < c.utf8Size) :
    OnlyFeeds (front ++ back) (byteLength front + inside) ↔ FeedsAlone front back.head? := by
  constructor
  · rintro hfeeds before c middle rfl hends
    refine hfeeds before c (middle ++ back) (by simp) ?_ ?_
    · simp
      omega
    · rw [List.head?_append]
      exact hends
  · intro halone before c rest hsplit hle hends
    have hparts : front ++ back = (before ++ [c]) ++ rest := by simpa using hsplit
    rcases List.append_eq_append_iff.mp hparts with ⟨extra, hbefore, hback⟩ | ⟨middle, hfront, hrest⟩
    · -- the character is the last one of the front, or else it ends behind the offset
      have hnil : extra = [] := by
        rcases List.eq_nil_or_concat extra with rfl | ⟨init, last, hconcat⟩
        · rfl
        · rw [hbefore, byteLength_append, hconcat] at hle
          rcases h with rfl | ⟨d, others, hcons, hsize⟩
          · have hpos := last.utf8Size_pos
            simp at hle
            omega
          · have hhead : d :: others = init ++ last :: rest := by
              rw [← hcons, hback, hconcat]
              simp
            cases init with
            | nil =>
              obtain ⟨rfl, -⟩ := List.cons.inj hhead
              simp at hle
              omega
            | cons e init =>
              obtain ⟨rfl, -⟩ := List.cons.inj hhead
              simp at hle
              omega
      subst hnil
      rw [List.append_nil] at hbefore
      rw [List.nil_append] at hback
      refine halone before c [] (by rw [← hbefore]) ?_
      rw [hback]
      exact hends
    · refine halone before c middle (by rw [hfront]; simp) ?_
      rw [hrest, List.head?_append] at hends
      exact hends

/-- The point of an offset is the one that is counted in line feeds exactly when line feeds alone have
ended lines up to there. -/
theorem pointAt_eq_feedPoint_iff (text : List Char) {offset : Nat} (h : offset ≤ byteLength text) :
    pointAt text offset = feedPoint ((utf8 text).take offset) ↔ OnlyFeeds text offset := by
  obtain ⟨front, back, inside, rfl, rfl, hinside⟩ := exists_front text offset h
  obtain ⟨hlength, hnone⟩ := take_utf8_inside hinside
  have hbytes : (utf8 (front ++ back)).take (byteLength front + inside) =
      utf8 front ++ (utf8 back).take inside := by
    rw [utf8_append, ← length_utf8 front, List.take_length_add_append]
  rw [pointAt_append_add front back (fun ends => lt_of_mem_lineEnds hinside), hbytes,
    feedPoint_append hnone, hlength, onlyFeeds_append hinside, Point.mk.injEq]
  constructor
  · rintro ⟨hrow, -⟩
    exact (feedPoint_row_le front back.head?).2 hrow
  · intro halone
    rw [seamPoint_of_feedsAlone halone]
    exact ⟨rfl, rfl⟩

end Dimming.Text
