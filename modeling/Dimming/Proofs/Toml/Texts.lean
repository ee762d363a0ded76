import Dimming.Toml.Read
import Dimming.Toml.Write
import Mathlib.Tactic.Common

/-!
# Quoted texts and keys

Between quotes every character stands for itself or is spelled by an escape. What is written for a text or a
key on one line is read as the text or the key.
-/

set_option autoImplicit false

namespace Dimming

namespace TomlText

/-! ## Characters -/

/-- A character that is no control character and no line feed is printable. -/
theorem isPrintable_of_isControl {c : Char} (hcontrol : isControl c = false) (hfeed : c ≠ '\n') :
    isPrintable c = true := by
  simp only [isControl, isPrintable, Bool.and_eq_false_iff, Bool.or_eq_false_iff, bne_eq_false_iff_eq,
    beq_eq_false_iff_ne, decide_eq_false_iff_not, Bool.or_eq_true, beq_iff_eq, Bool.and_eq_true,
    decide_eq_true_eq] at *
  rcases hcontrol with (htab | rfl) | ⟨hlow, hdelete⟩
  · exact Or.inl htab
  · exact absurd rfl hfeed
  · exact Or.inr ⟨by omega, hdelete⟩

/-- No line breaks at a printable character. -/
theorem lineBreak_of_isPrintable {c : Char} (h : isPrintable c = true) (rest : List Char) :
    lineBreak (c :: rest) = none := by
  unfold lineBreak
  split
  · next hfeed => cases (List.cons.inj hfeed).1; cases h
  · next hreturn => cases (List.cons.inj hreturn).1; cases h
  · rfl

/-! ## Escapes -/

/-- Behind a backslash a spelling gives a character, and no line break that the backslash would join. -/
structure Escapes (c : Char) (spelling : List Char) : Prop where
  reads : ∀ rest, escaped (spelling ++ rest) = some (c, rest)
  joinsNothing : ∀ rest, lineBreak (skipBlank (spelling ++ rest)) = none

/-- Four hexadecimal digits have the value that they were made of. -/
theorem hexFour_below : ∀ n < 128, (hexFour n).length = 4 ∧ (hexFour n).all Scan.isHexDigit = true ∧
    hexValue (hexFour n) = n := by
  decide +kernel

/-- A control character is escaped by four hexadecimal digits. -/
theorem escapes_hexFour {c : Char} (h : isControl c = true) : Escapes c ('u' :: hexFour c.toNat) where
  reads rest := by
    have hbelow : c.toNat < 128 := by
      simp only [isControl, Bool.and_eq_true, Bool.or_eq_true, decide_eq_true_eq, beq_iff_eq] at h
      omega
    obtain ⟨hlength, hdigits, hvalue⟩ := hexFour_below c.toNat hbelow
    have hless : c.toNat < 0xD800 := by omega
    simp only [List.cons_append, escaped, codePoint]
    rw [List.take_left' hlength, List.drop_left' hlength, hvalue]
    simp [hlength, hdigits, hless]
  joinsNothing rest := rfl

/-- How the first character of a text is written with escapes, behind `run` quotes. -/
inductive EscapeStep (long : Bool) (run : Nat) (c : Char) (rest : List Char) : Prop
  | quote (hc : c = '"') (hlong : long = true) (hrun : run < 2)
      (hsame : escape long run (c :: rest) = c :: escape long (run + 1) rest)
  | feed (hc : c = '\n') (hlong : long = true) (hsame : escape long run (c :: rest) = c :: escape long 0 rest)
  | spelled (spelling : List Char) (h : Escapes c spelling)
      (hsame : escape long run (c :: rest) = '\\' :: (spelling ++ escape long 0 rest))
  | plain (hquote : c ≠ '"') (hbackslash : c ≠ '\\') (hprintable : isPrintable c = true)
      (hsame : escape long run (c :: rest) = c :: escape long 0 rest)

/-- A character is escaped in one of these ways. -/
theorem escapeStep (long : Bool) (run : Nat) (c : Char) (rest : List Char) :
    EscapeStep long run c rest := by
  by_cases hquote : c = '"'
  · subst hquote
    by_cases hraw : long = true ∧ run < 2
    · exact .quote rfl hraw.1 hraw.2 (by simp [escape, hraw.1, hraw.2])
    · have hescaped : (long && decide (run < 2)) = false := by simpa using hraw
      refine .spelled ['"'] ⟨fun _ => rfl, fun _ => rfl⟩ ?_
      rw [escape, if_pos (beq_self_eq_true '"'), hescaped]
      rfl
  by_cases hbackslash : c = '\\'
  · subst hbackslash
    exact .spelled ['\\'] ⟨fun _ => rfl, fun _ => rfl⟩ (by simp [escape])
  by_cases htab : c = '\t'
  · subst htab
    exact .spelled ['t'] ⟨fun _ => rfl, fun _ => rfl⟩ (by simp [escape])
  by_cases hfeed : c = '\n'
  · subst hfeed
    cases long with
    | true => exact .feed rfl rfl (by simp [escape])
    | false => exact .spelled ['n'] ⟨fun _ => rfl, fun _ => rfl⟩ (by simp [escape])
  by_cases hreturn : c = '\r'
  · subst hreturn
    exact .spelled ['r'] ⟨fun _ => rfl, fun _ => rfl⟩ (by simp [escape])
  by_cases hback : c = '\x08'
  · subst hback
    exact .spelled ['b'] ⟨fun _ => rfl, fun _ => rfl⟩ (by simp [escape])
  by_cases hform : c = '\x0C'
  · subst hform
    exact .spelled ['f'] ⟨fun _ => rfl, fun _ => rfl⟩ (by simp [escape])
  cases hcontrol : isControl c with
  | true =>
    refine .spelled ('u' :: hexFour c.toNat) (escapes_hexFour hcontrol) ?_
    simp [escape, hquote, hbackslash, htab, hfeed, hreturn, hback, hform, hcontrol]
  | false =>
    refine .plain hquote hbackslash (isPrintable_of_isControl hcontrol hfeed) ?_
    simp [escape, hquote, hbackslash, htab, hfeed, hreturn, hback, hform, hcontrol]

/-! ## Texts on one line -/

/-- What may stand for a text between double quotes. -/
inductive Spelled : List Char → List Char → Prop
  | nil : Spelled [] []
  | plain {c : Char} {written text : List Char} (hquote : c ≠ '"') (hbackslash : c ≠ '\\')
      (hprintable : isPrintable c = true) : Spelled written text → Spelled (c :: written) (c :: text)
  | escaped {c : Char} {spelling written text : List Char} (h : Escapes c spelling) :
      Spelled written text → Spelled ('\\' :: (spelling ++ written)) (c :: text)

/-- A spelling is read as its text up to the closing quote. -/
theorem Spelled.basicText {written text : List Char} (h : Spelled written text) (rest : List Char)
    {fuel : Nat} (hfuel : text.length < fuel) :
    basicText fuel (written ++ '"' :: rest) = some (text, rest) := by
  induction h generalizing fuel with
  | nil =>
    cases fuel with
    | zero => cases hfuel
    | succ fuel => rfl
  | plain hquote hbackslash hprintable _ ih =>
    cases fuel with
    | zero => cases hfuel
    | succ fuel =>
      have hmore := ih (Nat.lt_of_succ_lt_succ hfuel)
      simp [TomlText.basicText, hprintable, hmore]
  | escaped h _ ih =>
    cases fuel with
    | zero => cases hfuel
    | succ fuel =>
      have hmore := ih (Nat.lt_of_succ_lt_succ hfuel)
      simp [TomlText.basicText, h.reads, hmore]

/-- The escaped characters of a text spell it. -/
theorem spelled_escape (run : Nat) (text : List Char) : Spelled (escape false run text) text := by
  induction text generalizing run with
  | nil => exact .nil
  | cons c rest ih =>
    cases escapeStep false run c rest with
    | quote _ hlong => cases hlong
    | feed _ hlong => cases hlong
    | spelled spelling hescapes hsame => exact hsame ▸ .escaped hescapes (ih 0)
    | plain hquote hbackslash hprintable hsame =>
      exact hsame ▸ .plain hquote hbackslash hprintable (ih 0)

/-- A text without anything to escape spells itself. -/
theorem spelled_self {text : List Char}
    (h : ∀ c ∈ text, c ≠ '"' ∧ c ≠ '\\' ∧ isPrintable c = true) : Spelled text text := by
  induction text with
  | nil => exact .nil
  | cons c rest ih =>
    obtain ⟨hquote, hbackslash, hprintable⟩ := h c List.mem_cons_self
    exact .plain hquote hbackslash hprintable (ih fun d hd => h d (List.mem_cons_of_mem c hd))

/-- A text without a single quote is read between single quotes as it stands. -/
theorem literalText_self {text : List Char} (h : ∀ c ∈ text, c ≠ '\'' ∧ isPrintable c = true)
    (rest : List Char) : literalText (text ++ '\'' :: rest) = some (text, rest) := by
  induction text with
  | nil => rfl
  | cons c more ih =>
    obtain ⟨hquote, hprintable⟩ := h c List.mem_cons_self
    have hmore := ih fun d hd => h d (List.mem_cons_of_mem c hd)
    simp [literalText, hprintable, hmore]

/-- A spelling is at least as long as its text. -/
theorem Spelled.length_le {written text : List Char} (h : Spelled written text) :
    text.length ≤ written.length := by
  induction h with
  | nil => exact Nat.le_refl _
  | plain _ _ _ _ ih => exact Nat.succ_le_succ ih
  | escaped _ _ ih => simp only [List.length_cons, List.length_append]; omega

/-- A spelling between double quotes is read as its text. -/
theorem Spelled.quotedText {written text : List Char} (h : Spelled written text) (rest : List Char) :
    quotedText ('"' :: (written ++ '"' :: '\n' :: rest)) = some (String.ofList text, '\n' :: rest) := by
  have hlength := h.length_le
  have hread : TomlText.basicText (('"' :: (written ++ '"' :: '\n' :: rest)).length + 1)
      (written ++ '"' :: '\n' :: rest) = some (text, '\n' :: rest) :=
    h.basicText ('\n' :: rest) (by simp only [List.length_cons, List.length_append]; omega)
  have hsingle : ∀ more, written ++ '"' :: '\n' :: rest ≠ '"' :: '"' :: more := by
    intro more hsame
    cases h with
    | nil => simp at hsame
    | plain hquote => exact hquote (List.cons.inj hsame).1
    | escaped => simp at hsame
  unfold TomlText.quotedText
  split
  · next htriple => exact absurd (List.cons.inj htriple).2 (hsingle _)
  · next htriple => simp at htriple
  · next hdouble =>
    obtain ⟨-, rfl⟩ := List.cons.inj hdouble
    rw [hread]
    rfl
  · next hliteral => simp at hliteral
  · next hother _ => exact absurd rfl (hother _)

/-- A text without a single quote, between single quotes, is read as it is. -/
theorem quotedText_literal {text : List Char} (h : ∀ c ∈ text, c ≠ '\'' ∧ isPrintable c = true)
    (rest : List Char) :
    quotedText ('\'' :: (text ++ '\'' :: '\n' :: rest)) = some (String.ofList text, '\n' :: rest) := by
  have hsingle : ∀ more, text ++ '\'' :: '\n' :: rest ≠ '\'' :: '\'' :: more := by
    intro more hsame
    cases text with
    | nil => simp at hsame
    | cons c _ => exact (h c List.mem_cons_self).1 (List.cons.inj hsame).1
  unfold quotedText
  split
  · next htriple => simp at htriple
  · next htriple => exact absurd (List.cons.inj htriple).2 (hsingle _)
  · next hdouble => simp at hdouble
  · next hliteral =>
    obtain ⟨-, rfl⟩ := List.cons.inj hliteral
    rw [literalText_self h]
    rfl
  · next hother => exact absurd rfl (hother _)

/-- The characters of a text between double quotes. -/
theorem toList_between_double (text rest : List Char) :
    (between "\"" text).toList ++ rest = '"' :: (text ++ '"' :: rest) := by
  simp [between]

/-- The characters of a text between single quotes. -/
theorem toList_between_single (text rest : List Char) :
    (between "'" text).toList ++ rest = '\'' :: (text ++ '\'' :: rest) := by
  simp [between]

/-! ## Keys -/

/-- The four ways to write a key. -/
inductive KeyForm (text : List Char) : List Char → Prop
  | bare (hne : text ≠ []) (h : ∀ c ∈ text, isBare c = true) : KeyForm text text
  | double (written : List Char) (h : Spelled written text) : KeyForm text ('"' :: (written ++ ['"']))
  | single (h : ∀ c ∈ text, c ≠ '\'' ∧ isPrintable c = true) : KeyForm text ('\'' :: (text ++ ['\'']))

/-- A key is written bare or between quotes. -/
theorem keyForm (key : String) : KeyForm key.toList (writeKey key).toList := by
  have hprintable : key.toList.any (fun c => isControl c || c == '\n') = false → ∀ c ∈ key.toList,
      isPrintable c = true := by
    intro hcontrol c hc
    have hplain : isControl c = false ∧ c ≠ '\n' := by simpa using List.any_eq_false.mp hcontrol c hc
    exact isPrintable_of_isControl hplain.1 hplain.2
  unfold writeKey
  simp only
  split
  · next h =>
    simp only [Bool.and_eq_true, Bool.not_eq_true', List.all_eq_true] at h
    exact .bare (by simpa using h.1) h.2
  split
  · next h =>
    simp only [Bool.and_eq_true, Bool.not_eq_true'] at h
    obtain ⟨⟨hcontrol, hbackslash⟩, hdouble⟩ := h
    rw [← List.append_nil (between _ _).toList, toList_between_double]
    refine .double key.toList (spelled_self fun c hc => ⟨?_, ?_, hprintable hcontrol c hc⟩)
    · rintro rfl
      simp [hc] at hdouble
    · rintro rfl
      simp [hc] at hbackslash
  split
  · next h =>
    simp only [Bool.and_eq_true, Bool.not_eq_true'] at h
    obtain ⟨hcontrol, hsingle⟩ := h
    rw [← List.append_nil (between _ _).toList, toList_between_single]
    refine .single fun c hc => ⟨?_, hprintable hcontrol c hc⟩
    rintro rfl
    simp [hc] at hsingle
  · rw [← List.append_nil (between _ _).toList, toList_between_double]
    exact .double _ (spelled_escape 0 key.toList)

/-- A character that a key can start with. -/
def StartsKey (c : Char) : Prop := isBare c = true ∨ c = '"' ∨ c = '\''

/-- A written key starts as a key does. -/
theorem exists_startsKey (key : String) : ∃ c more, (writeKey key).toList = c :: more ∧ StartsKey c := by
  have hform := keyForm key
  generalize (writeKey key).toList = written at hform
  cases hform with
  | bare hne h =>
    obtain ⟨c, more, hsame⟩ := List.exists_cons_of_ne_nil hne
    exact ⟨c, more, hsame, Or.inl (h c (hsame ▸ List.mem_cons_self))⟩
  | double written _ => exact ⟨_, _, rfl, Or.inr (Or.inl rfl)⟩
  | single _ => exact ⟨_, _, rfl, Or.inr (Or.inr rfl)⟩

/-- What is written for a key is read as the key, if no character that could go on a bare key follows. -/
theorem simpleKey_writeKey (key : String) {c : Char} (hbare : isBare c = false) (rest : List Char) :
    simpleKey ((writeKey key).toList ++ c :: rest) = some (key, c :: rest) := by
  have hkey : String.ofList key.toList = key := String.ofList_toList
  have hform := keyForm key
  generalize (writeKey key).toList = written at hform
  cases hform with
  | bare hne h =>
    have htake : (key.toList ++ c :: rest).takeWhile isBare = key.toList := by
      rw [List.takeWhile_append_of_pos h, List.takeWhile_cons_of_neg (by simp [hbare]), List.append_nil]
    have hdrop : (key.toList ++ c :: rest).dropWhile isBare = c :: rest := by
      rw [List.dropWhile_append_of_pos h, List.dropWhile_cons_of_neg (by simp [hbare])]
    have hfirst : ∀ quote more, key.toList ++ c :: rest = quote :: more → isBare quote = true := by
      intro quote more hsame
      obtain ⟨first, others, htext⟩ := List.exists_cons_of_ne_nil hne
      rw [htext] at hsame
      exact (List.cons.inj hsame).1 ▸ h first (htext ▸ List.mem_cons_self)
    unfold simpleKey
    split
    · next hdouble => exact absurd (hfirst _ _ hdouble) (by decide)
    · next hsingle => exact absurd (hfirst _ _ hsingle) (by decide)
    · rw [htake, hdrop]
      split
      · next hempty => exact absurd hempty hne
      · rw [hkey]
  | double written h =>
    have hlength := h.length_le
    simp only [List.cons_append, List.append_assoc, List.nil_append, simpleKey]
    rw [h.basicText (c :: rest), Option.map_some, hkey]
    simp only [List.length_cons, List.length_append]
    omega
  | single h =>
    simp only [List.cons_append, List.append_assoc, List.nil_append, simpleKey]
    rw [literalText_self h, Option.map_some, hkey]

end TomlText

end Dimming
