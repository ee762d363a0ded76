import Dimming.Text.LetterCase
import Mathlib.Tactic.Common

/-!
# Small letters and ASCII

Within ASCII small letters are what they always were. A character beyond ASCII stays beyond it, in one
character at least of what it becomes; the sign of the kelvin alone becomes an ASCII letter, the small `k`.
So a text whose small letters are an ASCII word without `k` is that word up to ASCII letter case.
-/

set_option autoImplicit false

namespace Dimming.Text

/-- A character is one of ASCII. -/
def IsAscii (c : Char) : Prop := c.toNat < 0x80

instance (c : Char) : Decidable (IsAscii c) := inferInstanceAs (Decidable (_ < _))

/-- A text and another that it becomes in small letters. A capital sigma may become either small sigma: which
one it is depends on whether a word ends there. -/
inductive Lowers : List Char → List Char → Prop where
  | nil : Lowers [] []
  | cons (c : Char) {text small : List Char} (h : Lowers text small) :
    Lowers (c :: text) (lowerChar c ++ small)
  | sigma {text small : List Char} (h : Lowers text small) : Lowers ('Σ' :: text) ('ς' :: small)

/-- A word of ASCII characters other than the small `k`. -/
def IsPlainWord (word : List Char) : Prop :=
  ∀ c ∈ word, IsAscii c ∧ c ≠ 'k'

instance (word : List Char) : Decidable (IsPlainWord word) :=
  List.decidableBAll _ word

/-- Lowering lowers every character. -/
theorem lowers_lower (text : List Char) : Lowers text (lower text) := by
  induction text with
  | nil => exact .nil
  | cons c text ih => exact .cons c ih

/-! ## Beyond ASCII -/

/-- The letter case of ASCII changes no character beyond it. -/
theorem toLower_of_not_isAscii {c : Char} (h : ¬ IsAscii c) : c.toLower = c := by
  have hcapital : ¬ (c.val ≥ 'A'.val ∧ c.val ≤ 'Z'.val) := by
    rintro ⟨-, hle⟩
    have hcode : c.toNat ≤ 90 := UInt32.le_iff_toNat_le.mp hle
    exact h (Nat.lt_of_le_of_lt hcode (by decide))
  exact dif_neg hcapital

/-- The capitals of a run are the kelvin sign, or their small letters are characters beyond ASCII. -/
def CapitalRun.StaysBeyond (run : CapitalRun) : Prop :=
  run = ⟨0x212A, 0x212A, 1, 0x6B⟩ ∨
    0x80 ≤ run.small ∧ run.small + (run.last - run.first) < 0xD800 ∨
    0xDFFF < run.small ∧ run.small + (run.last - run.first) < 0x110000

instance (run : CapitalRun) : Decidable run.StaysBeyond := inferInstanceAs (Decidable (_ ∨ _))

/-- No run of capitals leads to a plain small letter, the sign for kelvin apart. -/
theorem staysBeyond_of_mem_capitalRuns : ∀ run ∈ capitalRuns, run.StaysBeyond := by
  decide +kernel

/-- What a capital of such a run is lowered to is a k, or it lies beyond the plain letters. -/
theorem CapitalRun.StaysBeyond.smallOf? {run : CapitalRun} (h : run.StaysBeyond) {code small : Nat}
    (hsmall : run.smallOf? code = some small) :
    small = 0x6B ∨ 0x80 ≤ small ∧ small.isValidChar := by
  unfold CapitalRun.smallOf? at hsmall
  split at hsmall
  · next hcode =>
    obtain ⟨hfirst, hlast, -⟩ := hcode
    cases hsmall
    unfold Nat.isValidChar
    rcases h with rfl | ⟨hlow, hhigh⟩ | ⟨hlow, hhigh⟩
    · left
      dsimp only at hfirst hlast ⊢
      omega
    · omega
    · omega
  · cases hsmall

/-- What a character beyond ASCII becomes is the small `k` or is not all in ASCII. -/
theorem lowerChar_of_not_isAscii {c : Char} (h : ¬ IsAscii c) :
    lowerChar c = ['k'] ∨ ∃ d ∈ lowerChar c, ¬ IsAscii d := by
  have hcode : ¬ c.toNat < 0x80 := h
  rw [lowerChar, if_neg hcode]
  split
  · exact Or.inr ⟨'\u0307', by simp, by decide⟩
  · split
    · next small hsmall =>
      obtain ⟨run, hrun, hcode⟩ := List.exists_of_findSome?_eq_some hsmall
      rcases (staysBeyond_of_mem_capitalRuns run hrun).smallOf? hcode with rfl | ⟨hlow, hvalid⟩
      · exact Or.inl rfl
      · refine Or.inr ⟨_, List.mem_singleton_self _, ?_⟩
        rw [IsAscii, Char.ofNat, dif_pos hvalid]
        exact Nat.not_lt.mpr hlow
    · exact Or.inr ⟨c, List.mem_singleton_self c, h⟩

-- the sign of the kelvin, and the one of the ohm
example : lower ['\u212a', '\u2126'] = ['k', 'ω'] := by rfl

/-! ## Plain words -/

/-- No plain word begins with what a character beyond ASCII becomes. -/
theorem IsPlainWord.ne_lowerChar_append {word small : List Char} (hword : IsPlainWord word) {c : Char}
    (h : ¬ IsAscii c) : lowerChar c ++ small ≠ word := by
  rintro rfl
  rcases lowerChar_of_not_isAscii h with hk | ⟨d, hmem, hd⟩
  · exact (hword 'k' (by simp [hk])).2 rfl
  · exact hd (hword d (List.mem_append_left small hmem)).1

/-- A plain word does not begin with a character beyond ASCII. -/
theorem IsPlainWord.ne_cons {word rest : List Char} (hword : IsPlainWord word) {c : Char}
    (h : ¬ IsAscii c) : c :: rest ≠ word := by
  rintro rfl
  exact h (hword c List.mem_cons_self).1

/-- The small letters of a text are a plain word just when the text is that word up to the letter case of
ASCII. -/
theorem Lowers.eq_iff {text small : List Char} (h : Lowers text small) {word : List Char}
    (hword : IsPlainWord word) : small = word ↔ text.map Char.toLower = word := by
  induction h generalizing word with
  | nil => rfl
  | @cons c text small _ ih =>
    rw [List.map_cons]
    by_cases hc : IsAscii c
    · have hlower : lowerChar c = [c.toLower] := if_pos hc
      rw [hlower, List.singleton_append]
      cases word with
      | nil => simp
      | cons d word =>
        rw [List.cons.injEq, List.cons.injEq, ih fun e he => hword e (List.mem_cons_of_mem d he)]
    · rw [toLower_of_not_isAscii hc]
      exact iff_of_false (hword.ne_lowerChar_append hc) (hword.ne_cons hc)
  | sigma _ _ =>
    rw [List.map_cons, toLower_of_not_isAscii (by decide)]
    exact iff_of_false (hword.ne_cons (by decide)) (hword.ne_cons (by decide))

/-- A text that is a plain word up to the letter case of ASCII is all in ASCII. -/
theorem IsPlainWord.isAscii_of_map_toLower {word text : List Char} (hword : IsPlainWord word)
    (h : text.map Char.toLower = word) : ∀ c ∈ text, IsAscii c := by
  intro c hc
  by_contra hbeyond
  have hmem : c.toLower ∈ word := h ▸ List.mem_map_of_mem hc
  rw [toLower_of_not_isAscii hbeyond] at hmem
  exact hbeyond (hword c hmem).1

end Dimming.Text
