import Dimming.Text.Quoted
import Mathlib.Data.List.Basic

/-!
# What stands between quotes

A text is spelled out character by character: a character that prints stands for itself, some are escaped by
a letter, and all others by their number in hexadecimal digits. A quoted text spells the text out in this
way, and nothing is lost by it: what is written tells the text.
-/

set_option autoImplicit false

namespace Dimming

namespace Text

/-- The characters that are escaped by a letter, each with its letter. -/
def letterEscapes : List (Char × Char) :=
  [('\x00', '0'), ('\t', 't'), ('\r', 'r'), ('\n', 'n'), ('\\', '\\'), ('"', '"')]

/-- The hexadecimal digits, by their value. -/
def hexDigits : List Char := "0123456789abcdef".toList

/-- Hexadecimal digits for a number, with no zero in front. -/
structure Hexadecimal (digits : List Char) (value : Nat) : Prop where
  mem_hexDigits : ∀ c ∈ digits, c ∈ hexDigits
  value_eq : digits.foldl (fun value c => 16 * value + hexDigits.idxOf c) 0 = value
  head?_ne : digits.head? ≠ some '0'

/-- A text, and the way it is written between quotes. -/
inductive Spelled : List Char → List Char → Prop where
  | nil : Spelled [] []
  /-- A character that prints stands for itself. -/
  | plain {c : Char} {text written : List Char} (hplain : ∀ letter, (c, letter) ∉ letterEscapes)
      (hprints : prints c = true) (h : Spelled text written) : Spelled (c :: text) (c :: written)
  /-- A character may have a letter of its own. -/
  | letter {c letter : Char} {text written : List Char} (hletter : (c, letter) ∈ letterEscapes)
      (h : Spelled text written) : Spelled (c :: text) ('\\' :: letter :: written)
  /-- A character that does not print is written by its number. -/
  | number {c : Char} {digits text written : List Char}
      (hplain : ∀ letter, (c, letter) ∉ letterEscapes) (hprints : prints c = false)
      (hdigits : Hexadecimal digits c.toNat) (h : Spelled text written) :
      Spelled (c :: text) ('\\' :: 'u' :: '\x7b' :: (digits ++ '\x7d' :: written))

/-! ## Numbers in hexadecimal digits -/

/-- The digit of a small number stands at its place among the digits. -/
theorem digitChar_mem_hexDigits {value : Nat} (h : value < 16) :
    value.digitChar ∈ hexDigits ∧ hexDigits.idxOf value.digitChar = value := by
  have hall : ∀ small : Fin 16, small.val.digitChar ∈ hexDigits ∧
      hexDigits.idxOf small.val.digitChar = small.val := by decide
  exact hall ⟨value, h⟩

/-- Only zero has the digit zero. -/
theorem digitChar_ne_zero {value : Nat} (h : value < 16) (hne : value ≠ 0) :
    value.digitChar ≠ '0' := by
  intro hzero
  have hidx := (digitChar_mem_hexDigits h).2
  rw [hzero] at hidx
  exact hne hidx.symm

/-- The digits of a number that is not zero are hexadecimal digits for it. -/
theorem hexadecimal_toDigits (value : Nat) (hne : value ≠ 0) :
    Hexadecimal (Nat.toDigits 16 value) value := by
  induction value using Nat.strongRecOn with
  | ind value ih =>
    by_cases hsmall : value < 16
    · obtain ⟨hmem, hidx⟩ := digitChar_mem_hexDigits hsmall
      rw [Nat.toDigits_of_lt_base hsmall]
      refine ⟨?_, ?_, ?_⟩
      · intro c hc
        rw [List.mem_singleton.mp hc]
        exact hmem
      · simp [hidx]
      · simpa using digitChar_ne_zero hsmall hne
    · -- all digits but the last one are those of the sixteenth part
      have hbase : 16 ≤ value := Nat.le_of_not_lt hsmall
      obtain ⟨hmem, hvalue, hhead⟩ := ih (value / 16) (by omega) (by omega)
      obtain ⟨hlast, hidx⟩ := digitChar_mem_hexDigits (Nat.mod_lt value (by decide : 0 < 16))
      rw [Nat.toDigits_of_base_le (by decide) hbase]
      refine ⟨?_, ?_, ?_⟩
      · intro c hc
        rcases List.mem_append.mp hc with hc | hc
        · exact hmem c hc
        · rw [List.mem_singleton.mp hc]
          exact hlast
      · rw [List.foldl_append, hvalue, List.foldl_cons, List.foldl_nil, hidx]
        exact Nat.div_add_mod value 16
      · obtain ⟨first, rest, hcons⟩ :=
          List.exists_cons_of_ne_nil (@Nat.toDigits_ne_nil (value / 16) 16)
        rw [hcons] at hhead ⊢
        exact hhead

/-! ## What is written -/

/-- A character is written in front of what follows. -/
theorem Spelled.quotedChar (c : Char) {text written : List Char} (h : Spelled text written) :
    Spelled (c :: text) ((Text.quotedChar c).toList ++ written) := by
  by_cases hletter : ∃ letter, (c, letter) ∈ letterEscapes
  · obtain ⟨letter, hmem⟩ := hletter
    have hspelled := Spelled.letter hmem h
    simp only [letterEscapes, List.mem_cons, Prod.mk.injEq, List.not_mem_nil, or_false] at hmem
    rcases hmem with ⟨rfl, rfl⟩ | ⟨rfl, rfl⟩ | ⟨rfl, rfl⟩ | ⟨rfl, rfl⟩ | ⟨rfl, rfl⟩ | ⟨rfl, rfl⟩ <;>
      exact hspelled
  · have hplain : ∀ letter, (c, letter) ∉ letterEscapes := fun letter hmem => hletter ⟨letter, hmem⟩
    have hother : ∀ other letter, (other, letter) ∈ letterEscapes → c ≠ other := by
      rintro other letter hmem rfl
      exact hplain letter hmem
    have hzero : c ≠ '\x00' := hother _ '0' (by decide)
    have htab : c ≠ '\t' := hother _ 't' (by decide)
    have hreturn : c ≠ '\r' := hother _ 'r' (by decide)
    have hline : c ≠ '\n' := hother _ 'n' (by decide)
    have hslash : c ≠ '\\' := hother _ '\\' (by decide)
    have hquote : c ≠ '"' := hother _ '"' (by decide)
    unfold Text.quotedChar
    rw [if_neg hzero, if_neg htab, if_neg hreturn, if_neg hline, if_neg hslash, if_neg hquote]
    cases hprints : prints c with
    | true =>
      rw [if_pos rfl, String.toList_singleton]
      exact .plain hplain hprints h
    | false =>
      have hne : c.toNat ≠ 0 := fun hvalue => hzero (Char.toNat_inj.mp hvalue)
      have hspelled := Spelled.number hplain hprints (hexadecimal_toDigits c.toNat hne) h
      rw [if_neg Bool.false_ne_true]
      simpa [hexText, String.toList_append] using hspelled

/-- A quoted text is the text, spelled out between two quotes. -/
theorem exists_spelled (text : String) :
    ∃ written, quoted text = "\"" ++ String.ofList written ++ "\"" ∧
      Spelled text.toList written := by
  have hspelled : ∀ chars : List Char,
      Spelled chars (chars.flatMap fun c => (Text.quotedChar c).toList) := by
    intro chars
    induction chars with
    | nil => exact .nil
    | cons c rest ih => exact ih.quotedChar c
  refine ⟨_, ?_, hspelled text.toList⟩
  have hjoin : String.join (text.toList.map Text.quotedChar)
      = String.ofList (text.toList.flatMap fun c => (Text.quotedChar c).toList) := by
    apply String.toList_inj.mp
    rw [String.toList_join, String.toList_ofList, List.flatMap_map]
  rw [quoted, hjoin]

/-! ## What is read back -/

/-- The letter of an escape tells its character. -/
theorem letterEscapes_inj {c other letter : Char} (h : (c, letter) ∈ letterEscapes)
    (hother : (other, letter) ∈ letterEscapes) : c = other := by
  have hall : ∀ first ∈ letterEscapes, ∀ second ∈ letterEscapes,
      first.2 = second.2 → first.1 = second.1 := by decide
  exact hall _ h _ hother rfl

/-- No escape by a letter looks like one by a number. -/
theorem not_mem_letterEscapes (c : Char) : (c, 'u') ∉ letterEscapes := by
  have hall : ∀ entry ∈ letterEscapes, entry.2 ≠ 'u' := by decide
  exact fun hmem => hall _ hmem rfl

/-- Hexadecimal digits end where the closing brace stands. -/
theorem Hexadecimal.append_inj {digits others rest tail : List Char} {value other : Nat}
    (h : Hexadecimal digits value) (hother : Hexadecimal others other)
    (heq : digits ++ '\x7d' :: rest = others ++ '\x7d' :: tail) :
    value = other ∧ rest = tail := by
  have hend : ∀ {digits : List Char} {value : Nat}, Hexadecimal digits value →
      ∀ c ∈ digits, (c != '\x7d') = true := by
    intro digits value h c hc
    have hall : hexDigits.all (· != '\x7d') = true := by decide
    exact List.all_eq_true.mp hall c (h.mem_hexDigits c hc)
  have htake : ∀ {digits : List Char} {value : Nat} (rest : List Char), Hexadecimal digits value →
      (digits ++ '\x7d' :: rest).takeWhile (· != '\x7d') = digits := by
    intro digits value rest h
    rw [List.takeWhile_append_of_pos (hend h)]
    simp
  have hdigits : digits = others := by
    rw [← htake rest h, heq, htake tail hother]
  subst hdigits
  refine ⟨h.value_eq.symm.trans hother.value_eq, ?_⟩
  exact (List.cons.inj (List.append_cancel_left heq)).2

/-- What is written tells the text. -/
theorem Spelled.text_unique {text other written : List Char} (h : Spelled text written)
    (hother : Spelled other written) : text = other := by
  induction h generalizing other with
  | nil =>
    cases hother with
    | nil => rfl
  | plain hplain hprints _ ih =>
    cases hother with
    | plain _ _ hrest => rw [ih hrest]
    | letter _ _ => exact absurd (by decide) (hplain '\\')
    | number _ _ _ _ => exact absurd (by decide) (hplain '\\')
  | letter hletter _ ih =>
    cases hother with
    | plain hplain _ _ => exact absurd (by decide) (hplain '\\')
    | letter hother hrest => rw [letterEscapes_inj hletter hother, ih hrest]
    | number _ _ _ _ => exact absurd hletter (not_mem_letterEscapes _)
  | number _ _ hdigits _ ih =>
    generalize hwhole : '\\' :: 'u' :: '\x7b' :: _ = whole at hother
    cases hother with
    | nil => cases hwhole
    | plain hplain _ _ =>
      obtain ⟨rfl, -⟩ := List.cons.inj hwhole
      exact absurd (by decide) (hplain '\\')
    | letter hother _ =>
      obtain ⟨-, hwhole⟩ := List.cons.inj hwhole
      obtain ⟨rfl, -⟩ := List.cons.inj hwhole
      exact absurd hother (not_mem_letterEscapes _)
    | number _ _ hothers hrest =>
      simp only [List.cons.injEq, true_and] at hwhole
      obtain ⟨hvalue, rfl⟩ := hdigits.append_inj hothers hwhole
      rw [Char.toNat_inj.mp hvalue, ih hrest]

/-- Different texts look different between quotes. -/
theorem quoted_injective {text other : String} (h : quoted text = quoted other) : text = other := by
  obtain ⟨written, hwritten, hspelled⟩ := exists_spelled text
  obtain ⟨others, hothers, hspelledOther⟩ := exists_spelled other
  rw [hwritten, hothers, ← String.toList_inj] at h
  simp only [String.toList_append, String.toList_ofList] at h
  rw [List.append_cancel_left (List.append_cancel_right h)] at hspelled
  exact String.toList_inj.mp (hspelled.text_unique hspelledOther)

end Text

end Dimming
