import Dimming.Proofs.Toml.LongTexts
import Mathlib.Data.List.Basic

/-!
# Values

Each sort of value that settings are written with is read back: texts, counts, truth values and lists
without items. The end of the line behind a value tells where it ends.
-/

set_option autoImplicit false

namespace Dimming

namespace TomlText

/-- What is written for a value does not start with a blank, and it is read as the value when a line ends
behind it. -/
structure ReadAs (written : List Char) (item : Toml) : Prop where
  skipBlank : ∀ rest, skipBlank (written ++ '\n' :: rest) = written ++ '\n' :: rest
  value : ∀ rest, value depthLimit (written ++ '\n' :: rest) = some (item, '\n' :: rest)

/-- Nothing is skipped before what is no blank. -/
theorem skipBlank_of_ne {c : Char} (hspace : c ≠ ' ') (htab : c ≠ '\t') (rest : List Char) :
    skipBlank (c :: rest) = c :: rest := by
  rw [skipBlank, List.dropWhile_cons_of_neg (by simp [hspace, htab])]

/-! ## Counts -/

/-- The decimal digits of a number are digits. -/
theorem isDigit_of_mem_toDigits {n : Nat} {c : Char} (h : c ∈ Nat.toDigits 10 n) : Scan.isDigit c = true := by
  have hdigit := Nat.isDigit_of_mem_toDigits (by decide) (by decide) h
  simpa [Scan.isDigit, Char.isDigit, Char.le_def] using hdigit

/-- A number that is not zero does not start with the digit zero. -/
theorem head?_toDigits {n : Nat} (h : n ≠ 0) : (Nat.toDigits 10 n).head? ≠ some '0' := by
  induction n using Nat.strongRecOn with
  | ind n ih =>
    by_cases hsmall : n < 10
    · have hdigits : ∀ m < 10, m ≠ 0 → ([m.digitChar]).head? ≠ some '0' := by decide
      rw [Nat.toDigits_of_lt_base hsmall]
      exact hdigits n hsmall h
    · rw [Nat.toDigits_of_base_le (by decide) (by omega), List.head?_append]
      have hfront := ih (n / 10) (by omega) (by omega)
      obtain ⟨c, more, hcons⟩ := List.exists_cons_of_ne_nil (@Nat.toDigits_ne_nil (n / 10) 10)
      rw [hcons] at hfront ⊢
      simpa using hfront

/-- A run of digits ends at the end of the line. -/
theorem digitTail_append {digits : List Char} (h : ∀ c ∈ digits, Scan.isDigit c = true) (rest : List Char) :
    digitTail Scan.isDigit (digits ++ '\n' :: rest) = digits.length := by
  induction digits with
  | nil => cases rest <;> rfl
  | cons c more ih =>
    have hdigit := h c List.mem_cons_self
    have hmore := ih fun d hd => h d (List.mem_cons_of_mem c hd)
    have hunderscore : c ≠ '_' := by
      rintro rfl
      cases hdigit
    rw [List.cons_append, digitTail.eq_def]
    split
    · next hsame => exact absurd (List.cons.inj hsame).1 hunderscore
    · next hsame =>
      obtain ⟨rfl, rfl⟩ := List.cons.inj hsame
      rw [if_pos hdigit, hmore, List.length_cons]
    · next hsame => cases hsame

/-- The digits of a number and the end of the line. -/
def digitLine (n : Nat) (rest : List Char) : List Char := Nat.toDigits 10 n ++ '\n' :: rest

/-- The line of a number starts with a digit. -/
theorem exists_digitLine (n : Nat) (rest : List Char) :
    ∃ c more, Nat.toDigits 10 n = c :: more ∧ digitLine n rest = c :: (more ++ '\n' :: rest) ∧
      Scan.isDigit c = true := by
  obtain ⟨c, more, hcons⟩ := List.exists_cons_of_ne_nil (@Nat.toDigits_ne_nil n 10)
  refine ⟨c, more, hcons, by rw [digitLine, hcons, List.cons_append], ?_⟩
  exact isDigit_of_mem_toDigits (hcons ▸ List.mem_cons_self)

/-- Behind the digits the line ends. -/
theorem drop_digitLine (n : Nat) (rest : List Char) :
    (digitLine n rest).drop (Nat.toDigits 10 n).length = '\n' :: rest :=
  List.drop_left

/-- The digits stand at the start of the line. -/
theorem take_digitLine (n : Nat) (rest : List Char) :
    (digitLine n rest).take (Nat.toDigits 10 n).length = Nat.toDigits 10 n :=
  List.take_left

/-- A natural number is written without a sign. -/
theorem sign_digitLine (n : Nat) (rest : List Char) : sign (digitLine n rest) = 0 := by
  obtain ⟨c, more, -, hline, hdigit⟩ := exists_digitLine n rest
  have hplus : c ≠ '+' := by
    rintro rfl
    cases hdigit
  have hminus : c ≠ '-' := by
    rintro rfl
    cases hdigit
  simp [hline, sign, Scan.one, hplus, hminus]

/-- A number that starts with a zero is no more than that. -/
theorem digitLine_of_zero {n : Nat} {rest others : List Char} (h : digitLine n rest = '0' :: others) :
    n = 0 ∧ others = '\n' :: rest := by
  obtain ⟨c, more, hdigits, hline, -⟩ := exists_digitLine n rest
  obtain ⟨rfl, rfl⟩ := List.cons.inj (hline.symm.trans h)
  have hn : n = 0 := by
    by_contra hn
    exact head?_toDigits hn (by rw [hdigits, List.head?_cons])
  subst hn
  rw [Nat.toDigits_zero] at hdigits
  obtain ⟨-, rfl⟩ := List.cons.inj hdigits
  exact ⟨rfl, rfl⟩

/-- The decimal run of the line is all its digits. -/
theorem decimalRun_digitLine (n : Nat) (rest : List Char) :
    decimalRun (digitLine n rest) = (Nat.toDigits 10 n).length := by
  obtain ⟨c, more, hdigits, hline, hdigit⟩ := exists_digitLine n rest
  have hmore : digitTail Scan.isDigit (more ++ '\n' :: rest) = more.length :=
    digitTail_append (fun d hd => isDigit_of_mem_toDigits (hdigits ▸ List.mem_cons_of_mem c hd)) rest
  unfold decimalRun Scan.maybeThen
  rw [sign_digitLine, hdigits]
  by_cases hzero : c = '0'
  · subst hzero
    obtain ⟨rfl, -⟩ := digitLine_of_zero hline
    rw [Nat.toDigits_zero] at hdigits
    obtain ⟨-, rfl⟩ := List.cons.inj hdigits
    rfl
  · simp [hline, hzero, digitRun, hdigit, hmore]

/-- The line of a natural number is no real number. -/
theorem realRun_digitLine (n : Nat) (rest : List Char) : realRun (digitLine n rest) = 0 := by
  obtain ⟨c, more, -, hline, hdigit⟩ := exists_digitLine n rest
  have hnames : c ≠ 'i' ∧ c ≠ 'n' := by
    constructor <;> (rintro rfl; cases hdigit)
  have hpart : Scan.first [exponentRun, Scan.andMaybe fractionRun exponentRun] ('\n' :: rest) = 0 := by
    simp [Scan.first, exponentRun, fractionRun, Scan.both, Scan.andMaybe, Scan.one, Scan.text]
  have hnumber : Scan.both decimalRun (Scan.first [exponentRun, Scan.andMaybe fractionRun exponentRun])
      (digitLine n rest) = 0 := by
    unfold Scan.both
    rw [decimalRun_digitLine]
    split
    · rfl
    · rw [drop_digitLine, hpart]
      rfl
  have hname : Scan.maybeThen sign (Scan.first [Scan.text "inf", Scan.text "nan"]) (digitLine n rest) = 0 := by
    have hsign := sign_digitLine n rest
    rw [hline] at hsign ⊢
    simp [Scan.maybeThen, hsign, Scan.first, Scan.text, Ne.symm hnames.1, Ne.symm hnames.2]
  simp only [realRun]
  rw [Scan.first]
  simp [hnumber, hname]

/-- The line of a natural number is no date and no time. -/
theorem dateTime_digitLine (n : Nat) (rest : List Char) : dateTime (digitLine n rest) = none := by
  have htake : (digitLine n rest).takeWhile Scan.isDigit = Nat.toDigits 10 n := by
    rw [digitLine, List.takeWhile_append_of_pos (fun _ => isDigit_of_mem_toDigits)]
    simp [Scan.isDigit]
  have hbehind : ∀ count, (Nat.toDigits 10 n).length = count →
      ((digitLine n rest).drop count).head? = some '\n' := by
    rintro count rfl
    rw [drop_digitLine, List.head?_cons]
  unfold dateTime
  rw [htake]
  -- a date has four digits before a dash, and a time has two before a colon
  by_cases hfour : (Nat.toDigits 10 n).length = 4
  · simp [hfour, hbehind 4 hfour]
  by_cases htwo : (Nat.toDigits 10 n).length = 2
  · simp [htwo, hbehind 2 htwo]
  · simp [hfour, htwo]

/-- The decimal digits of a number have its value. -/
theorem digitsValue_toDigits (n : Nat) : digitsValue 10 (Nat.toDigits 10 n) = n := by
  have hplain : (Nat.toDigits 10 n).filter (· != '_') = Nat.toDigits 10 n := by
    rw [List.filter_eq_self]
    intro c hc
    refine bne_iff_ne.mpr ?_
    rintro rfl
    cases isDigit_of_mem_toDigits hc
  have hdigit : ∀ (value : Nat), ∀ c ∈ Nat.toDigits 10 n,
      10 * value + hexValue [c] = 10 * value + (c.toNat - '0'.toNat) := by
    intro value c hc
    have hc := Nat.isDigit_of_mem_toDigits (by decide) (by decide) hc
    simp [hexValue, hc]
  calc digitsValue 10 (Nat.toDigits 10 n)
      = (Nat.toDigits 10 n).foldl (fun value c => 10 * value + hexValue [c]) 0 := by
        rw [digitsValue, hplain]
    _ = (Nat.toDigits 10 n).foldl (fun value c => 10 * value + (c.toNat - '0'.toNat)) 0 :=
        List.foldl_ext _ _ 0 hdigit
    _ = Nat.ofDigitChars 10 (Nat.toDigits 10 n) 0 := Nat.ofDigitChars_eq_foldl.symm
    _ = n := Nat.ofDigitChars_ten_toDigits

/-- The line of a natural number in range is read as this number. -/
theorem wholeNumber_digitLine {n : Nat} (h : (n : Int) ≤ Toml.wholeRange.2) (rest : List Char) :
    wholeNumber (digitLine n rest) = some (.whole n, '\n' :: rest) := by
  have hdigits : (Nat.toDigits 10 n).filter Scan.isDigit = Nat.toDigits 10 n :=
    List.filter_eq_self.mpr fun _ => isDigit_of_mem_toDigits
  have hbounded : boundedWhole (n : Int) = some (.whole n) := by
    rw [boundedWhole, if_pos ⟨by simp [Toml.wholeRange], h⟩]
  have hminus : (Nat.toDigits 10 n).head? ≠ some '-' := by
    obtain ⟨c, more, hcons, -, hdigit⟩ := exists_digitLine n rest
    rw [hcons, List.head?_cons]
    rintro ⟨⟩
    cases hdigit
  unfold wholeNumber
  split
  -- other bases have a letter behind a zero
  · next hbase => cases (digitLine_of_zero hbase).2
  · next hbase => cases (digitLine_of_zero hbase).2
  · next hbase => cases (digitLine_of_zero hbase).2
  · rw [decimalRun_digitLine]
    split
    · next hlength => exact absurd (List.eq_nil_of_length_eq_zero hlength) Nat.toDigits_ne_nil
    · rw [take_digitLine, drop_digitLine]
      simp only [hdigits, digitsValue_toDigits, if_neg hminus, hbounded, Option.map_some]

/-- What starts with a digit is a number, a date or a time. -/
theorem value_of_isDigit {c : Char} (h : Scan.isDigit c = true) (rest : List Char) :
    value depthLimit (c :: rest) = numberOrDate (c :: rest) := by
  have hother : ∀ {d more}, c :: rest = d :: more → Scan.isDigit d = true := by
    intro d more hsame
    exact (List.cons.inj hsame).1 ▸ h
  rw [value.eq_def]
  dsimp only
  split
  · next hdouble => cases hother hdouble
  · next hsingle => cases hother hsingle
  · next htrue => cases hother htrue
  · next hfalse => cases hother hfalse
  · next hlist => cases hother hlist
  · next hbraces => cases hother hbraces
  · rfl

/-- A natural number in range is read as it was written. -/
theorem readAs_count {n : Nat} (h : (n : Int) ≤ Toml.wholeRange.2) :
    ReadAs (toString n).toList (.whole n) := by
  have hline : ∀ rest, (toString n).toList ++ '\n' :: rest = digitLine n rest := by
    intro rest
    rw [Nat.toString_eq_ofList_toDigits, String.toList_ofList, digitLine]
  refine ⟨fun rest => ?_, fun rest => ?_⟩
  · obtain ⟨c, more, -, hcons, hdigit⟩ := exists_digitLine n rest
    rw [hline, hcons]
    refine skipBlank_of_ne ?_ ?_ _ <;> (rintro rfl; cases hdigit)
  · have hread : numberOrDate (digitLine n rest) = some (.whole n, '\n' :: rest) := by
      unfold numberOrDate
      rw [dateTime_digitLine, realRun_digitLine]
      exact wholeNumber_digitLine h rest
    obtain ⟨c, more, -, hcons, hdigit⟩ := exists_digitLine n rest
    rw [hline, ← hread, hcons, value_of_isDigit hdigit]

/-! ## Other values -/

/-- What can be read between quotes starts with a quote. -/
theorem exists_quote_of_quotedText {text : List Char} (h : (quotedText text).isSome = true) :
    ∃ more, text = '"' :: more ∨ text = '\'' :: more := by
  unfold quotedText at h
  split at h
  · exact ⟨_, Or.inl rfl⟩
  · exact ⟨_, Or.inr rfl⟩
  · exact ⟨_, Or.inl rfl⟩
  · exact ⟨_, Or.inr rfl⟩
  · cases h

/-- A text is read as it was written. -/
theorem readAs_writeText (text : String) : ReadAs (writeText text).toList (.text text) := by
  have hstart : ∀ rest, ∃ more, (writeText text).toList ++ '\n' :: rest = '"' :: more ∨
      (writeText text).toList ++ '\n' :: rest = '\'' :: more :=
    fun rest => exists_quote_of_quotedText (by rw [quotedText_writeText, Option.isSome_some])
  refine ⟨fun rest => ?_, fun rest => ?_⟩
  · obtain ⟨more, hmore | hmore⟩ := hstart rest
    · exact hmore ▸ rfl
    · exact hmore ▸ rfl
  · have hread := quotedText_writeText text rest
    obtain ⟨more, hmore | hmore⟩ := hstart rest
    · rw [hmore] at hread ⊢
      rw [value, hread]
      rfl
    · rw [hmore] at hread ⊢
      rw [value, hread]
      rfl

/-- A truth value is read as it was written. -/
theorem readAs_flag (flag : Bool) : ReadAs (toString flag).toList (.flag flag) := by
  cases flag <;> exact ⟨fun _ => rfl, fun _ => rfl⟩

/-- The empty list is read as it was written. -/
theorem readAs_hollow : ReadAs "[]".toList (.list []) := ⟨fun _ => rfl, fun _ => rfl⟩

end TomlText

end Dimming
