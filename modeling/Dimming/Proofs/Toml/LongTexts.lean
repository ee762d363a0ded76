import Dimming.Proofs.Toml.Texts

/-!
# Texts in long quotes

Between long quotes one or two quotes may stand in a row, and the text may end in them: the reader takes the
last three of up to five for the end. What is written for a text is read as that text, whatever quotes were
chosen for it.
-/

set_option autoImplicit false

namespace Dimming

namespace TomlText

/-- What may stand for a text between long quotes, behind `run` quotes that stand for themselves. -/
inductive LongSpelled (quote : Char) (escapes : Bool) : Nat → List Char → List Char → Prop
  | nil {run : Nat} : LongSpelled quote escapes run [] []
  | quote {run : Nat} {written text : List Char} (hrun : run < 2) :
      LongSpelled quote escapes (run + 1) written text →
      LongSpelled quote escapes run (quote :: written) (quote :: text)
  | plain {run : Nat} {c : Char} {written text : List Char} (hquote : c ≠ quote)
      (hbackslash : escapes = true → c ≠ '\\') (hprintable : isPrintable c = true) :
      LongSpelled quote escapes 0 written text →
      LongSpelled quote escapes run (c :: written) (c :: text)
  | feed {run : Nat} {written text : List Char} : LongSpelled quote escapes 0 written text →
      LongSpelled quote escapes run ('\n' :: written) ('\n' :: text)
  | escaped {run : Nat} {c : Char} {spelling written text : List Char} (hescapes : escapes = true)
      (h : Escapes c spelling) : LongSpelled quote escapes 0 written text →
      LongSpelled quote escapes run ('\\' :: (spelling ++ written)) (c :: text)

/-- The number of quotes at the start of a text. -/
def quotesAhead (quote : Char) (text : List Char) : Nat := (text.takeWhile (· == quote)).length

/-- Quotes are counted up to the first other character. -/
theorem quotesAhead_cons (quote c : Char) (rest : List Char) :
    quotesAhead quote (c :: rest) = if c = quote then quotesAhead quote rest + 1 else 0 := by
  unfold quotesAhead
  by_cases h : c = quote <;> simp [h]

/-- The characters that long quotes are made of. -/
structure LongQuote (quote : Char) : Prop where
  ne_backslash : quote ≠ '\\'
  isPrintable : isPrintable quote = true

/-- A line feed is no quote. -/
theorem LongQuote.feed_ne {quote : Char} (h : LongQuote quote) : '\n' ≠ quote := by
  rintro rfl
  cases h.isPrintable

variable {quote : Char} {escapes : Bool}

/-- A text in long quotes ends at once, with as many quotes of its own as there are beyond three, or fewer
than three quotes come first. -/
theorem LongSpelled.quotesAhead_cases (hquote : LongQuote quote) {run : Nat} {written text : List Char}
    (h : LongSpelled quote escapes run written text) (hrun : run ≤ 2) (rest : List Char) :
    (∃ count, count + run ≤ 2 ∧ written = List.replicate count quote ∧ text = List.replicate count quote ∧
      quotesAhead quote (written ++ quote :: quote :: quote :: '\n' :: rest) = count + 3) ∨
    quotesAhead quote (written ++ quote :: quote :: quote :: '\n' :: rest) + run ≤ 2 := by
  induction h with
  | nil => exact Or.inl ⟨0, by omega, rfl, rfl, by simp [quotesAhead_cons, hquote.feed_ne]⟩
  | quote hless _ ih =>
    rw [List.cons_append, quotesAhead_cons, if_pos rfl]
    rcases ih (by omega) with ⟨count, hcount, rfl, rfl, hahead⟩ | hahead
    · exact Or.inl ⟨count + 1, by omega, rfl, rfl, by omega⟩
    · exact Or.inr (by omega)
  | plain hother _ _ _ _ =>
    rw [List.cons_append, quotesAhead_cons, if_neg hother]
    exact Or.inr (by omega)
  | feed _ _ =>
    rw [List.cons_append, quotesAhead_cons, if_neg hquote.feed_ne]
    exact Or.inr (by omega)
  | escaped _ _ _ _ =>
    rw [List.cons_append, quotesAhead_cons, if_neg (Ne.symm hquote.ne_backslash)]
    exact Or.inr (by omega)

section Steps

variable {fuel : Nat} {c : Char} {text rest : List Char}

/-- A long text ends at three quotes; up to two more before them belong to it. -/
theorem longText_end {count : Nat} (hcount : count ≤ 2) (hahead : quotesAhead quote text = count + 3) :
    longText quote escapes (fuel + 1) text = some (List.replicate count quote, text.drop (count + 3)) := by
  have hlength : (text.takeWhile (· == quote)).length = count + 3 := hahead
  rw [longText]
  simp only [hlength]
  rw [if_neg (by omega), if_pos (by omega), Nat.add_sub_cancel]

/-- A printable character stands for itself. -/
theorem longText_plain (hprintable : isPrintable c = true) (hbackslash : escapes = true → c ≠ '\\')
    (hahead : quotesAhead quote (c :: rest) ≤ 2) :
    longText quote escapes (fuel + 1) (c :: rest) =
      (longText quote escapes fuel rest).map fun (more, rest) => (c :: more, rest) := by
  have hlength : ((c :: rest).takeWhile (· == quote)).length ≤ 2 := hahead
  have hraw : (escapes && c == '\\') = false := by
    cases escapes with
    | true => simpa using hbackslash rfl
    | false => rfl
  rw [longText]
  simp only []
  rw [if_neg (by omega), if_neg (by omega), lineBreak_of_isPrintable hprintable]
  simp [hraw, hprintable]

/-- A line feed stands for itself. -/
theorem longText_feed (hahead : quotesAhead quote ('\n' :: rest) ≤ 2) :
    longText quote escapes (fuel + 1) ('\n' :: rest) =
      (longText quote escapes fuel rest).map fun (more, rest) => ('\n' :: more, rest) := by
  have hlength : (('\n' :: rest).takeWhile (· == quote)).length ≤ 2 := hahead
  rw [longText]
  simp only []
  rw [if_neg (by omega), if_neg (by omega)]
  rfl

/-- An escape stands for its character. -/
theorem longText_escaped {spelling : List Char} (h : Escapes c spelling)
    (hahead : quotesAhead quote ('\\' :: (spelling ++ rest)) ≤ 2) :
    longText quote true (fuel + 1) ('\\' :: (spelling ++ rest)) =
      (longText quote true fuel rest).map fun (more, rest) => (c :: more, rest) := by
  have hlength : (('\\' :: (spelling ++ rest)).takeWhile (· == quote)).length ≤ 2 := hahead
  rw [longText]
  simp only []
  rw [if_neg (by omega), if_neg (by omega), lineBreak_of_isPrintable (by rfl)]
  simp [h.joinsNothing, h.reads]

end Steps

/-- A spelling of a long text is at its end, or fewer than three quotes are ahead. -/
theorem LongSpelled.ends_or_goes_on (hquote : LongQuote quote) {run : Nat} {written text : List Char}
    (h : LongSpelled quote escapes run written text) (hrun : run ≤ 2) (rest : List Char) :
    (∀ fuel, longText quote escapes (fuel + 1) (written ++ quote :: quote :: quote :: '\n' :: rest) =
      some (text, '\n' :: rest)) ∨
    quotesAhead quote (written ++ quote :: quote :: quote :: '\n' :: rest) ≤ 2 := by
  rcases h.quotesAhead_cases hquote hrun rest with ⟨count, hcount, rfl, rfl, hahead⟩ | hahead
  · refine Or.inl fun fuel => ?_
    rw [longText_end (by omega) hahead]
    simp [List.drop_append]
  · exact Or.inr (by omega)

/-- What is spelled in long quotes is read. -/
theorem LongSpelled.longText (hquote : LongQuote quote) {run : Nat} {written text : List Char}
    (h : LongSpelled quote escapes run written text) (hrun : run ≤ 2) (rest : List Char) {fuel : Nat}
    (hfuel : text.length < fuel) :
    longText quote escapes fuel (written ++ quote :: quote :: quote :: '\n' :: rest) =
      some (text, '\n' :: rest) := by
  induction h generalizing fuel with
  | nil =>
    obtain ⟨fuel, rfl⟩ : ∃ more, fuel = more + 1 := ⟨fuel - 1, by omega⟩
    exact longText_end (Nat.zero_le 2) (by simp [quotesAhead_cons, hquote.feed_ne])
  | @quote run written text hless h ih =>
    obtain ⟨fuel, rfl⟩ : ∃ more, fuel = more + 1 := ⟨fuel - 1, by omega⟩
    -- a quote may be one of those in which the text ends, and then they are read at once
    rcases (h.quote hless).ends_or_goes_on hquote hrun rest with hends | hahead
    · exact hends fuel
    · have hmore := @ih (by omega) fuel (Nat.lt_of_succ_lt_succ hfuel)
      rw [List.cons_append] at hahead ⊢
      rw [longText_plain hquote.isPrintable (fun _ => hquote.ne_backslash) hahead, hmore]
      rfl
  | @plain run c written text hother hbackslash hprintable h ih =>
    obtain ⟨fuel, rfl⟩ : ∃ more, fuel = more + 1 := ⟨fuel - 1, by omega⟩
    have hahead : quotesAhead quote (c :: (written ++ quote :: quote :: quote :: '\n' :: rest)) ≤ 2 := by
      rw [quotesAhead_cons, if_neg hother]
      exact Nat.zero_le 2
    have hmore := @ih (Nat.zero_le 2) fuel (Nat.lt_of_succ_lt_succ hfuel)
    rw [List.cons_append, longText_plain hprintable hbackslash hahead, hmore]
    rfl
  | @feed run written text h ih =>
    obtain ⟨fuel, rfl⟩ : ∃ more, fuel = more + 1 := ⟨fuel - 1, by omega⟩
    have hahead : quotesAhead quote ('\n' :: (written ++ quote :: quote :: quote :: '\n' :: rest)) ≤ 2 := by
      rw [quotesAhead_cons, if_neg hquote.feed_ne]
      exact Nat.zero_le 2
    have hmore := @ih (Nat.zero_le 2) fuel (Nat.lt_of_succ_lt_succ hfuel)
    rw [List.cons_append, longText_feed hahead, hmore]
    rfl
  | @escaped run c spelling written text hescapes hspelling h ih =>
    obtain ⟨fuel, rfl⟩ : ∃ more, fuel = more + 1 := ⟨fuel - 1, by omega⟩
    have hmore := @ih (Nat.zero_le 2) fuel (Nat.lt_of_succ_lt_succ hfuel)
    subst hescapes
    rw [List.cons_append, List.append_assoc, longText_escaped hspelling ?_, hmore]
    · rfl
    · rw [quotesAhead_cons, if_neg (Ne.symm hquote.ne_backslash)]
      exact Nat.zero_le 2

/-- A double quote can enclose a long text. -/
theorem longQuote_double : LongQuote '"' := ⟨by decide, rfl⟩

/-- A single quote can enclose a long text. -/
theorem longQuote_single : LongQuote '\'' := ⟨by decide, rfl⟩

/-- The escaped characters of a text spell it between double quotes. -/
theorem longSpelled_escape {run : Nat} (hrun : run ≤ 2) (text : List Char) :
    LongSpelled '"' true run (escape true run text) text := by
  induction text generalizing run with
  | nil => exact .nil
  | cons c rest ih =>
    cases escapeStep true run c rest with
    | quote hc _ hless hsame =>
      subst hc
      exact hsame ▸ .quote hless (ih hless)
    | feed hc _ hsame =>
      subst hc
      exact hsame ▸ .feed (ih (Nat.zero_le 2))
    | spelled spelling hescapes hsame => exact hsame ▸ .escaped rfl hescapes (ih (Nat.zero_le 2))
    | plain hquote hbackslash hprintable hsame =>
      exact hsame ▸ .plain hquote (fun _ => hbackslash) hprintable (ih (Nat.zero_le 2))

/-! ## Runs of quotes -/

/-- One character further in counting the present run and the longest one. -/
def runStep (quote : Char) (state : Nat × Nat) (c : Char) : Nat × Nat :=
  let run := if c == quote then state.1 + 1 else 0
  (run, max run state.2)

/-- The longest run of quotes does not get shorter. -/
theorem le_foldl_runStep (quote : Char) (state : Nat × Nat) (text : List Char) :
    state.2 ≤ (text.foldl (runStep quote) state).2 := by
  induction text generalizing state with
  | nil => exact Nat.le_refl _
  | cons c rest ih => exact Nat.le_trans (Nat.le_max_right _ _) (ih (runStep quote state c))

/-- Where the longest run is empty there is no quote. -/
theorem not_mem_of_foldl_runStep {state : Nat × Nat} {text : List Char}
    (h : (text.foldl (runStep quote) state).2 = 0) : quote ∉ text := by
  induction text generalizing state with
  | nil => exact List.not_mem_nil
  | cons c rest ih =>
    rw [List.foldl_cons] at h
    rw [List.mem_cons, not_or]
    refine ⟨?_, ih h⟩
    rintro rfl
    have hstep := le_foldl_runStep quote (runStep quote state quote) rest
    simp only [runStep, beq_self_eq_true, if_true] at h hstep
    omega

/-- A text whose longest run of quotes is empty has no quote. -/
theorem not_mem_of_longestRun {text : List Char} (h : longestRun quote text = 0) : quote ∉ text :=
  not_mem_of_foldl_runStep h

/-- A text stands for itself between long quotes when it has at most two quotes in a row. -/
theorem longSpelled_self {run : Nat} {text : List Char}
    (h : ∀ c ∈ text, (escapes = true → c ≠ '\\') ∧ (c ≠ '\n' → isPrintable c = true))
    {best : Nat} (hbest : (text.foldl (runStep quote) (run, best)).2 ≤ 2) :
    LongSpelled quote escapes run text text := by
  induction text generalizing run best with
  | nil => exact .nil
  | cons c rest ih =>
    rw [List.foldl_cons] at hbest
    obtain ⟨hbackslash, hprintable⟩ := h c List.mem_cons_self
    have hmore := fun d hd => h d (List.mem_cons_of_mem c hd)
    by_cases hquote : c = quote
    · subst hquote
      have hstep := le_foldl_runStep c (runStep c (run, best) c) rest
      simp only [runStep, beq_self_eq_true, if_true] at hbest hstep
      exact .quote (by omega) (ih hmore hbest)
    · have hother : runStep quote (run, best) c = (0, max 0 best) := by simp [runStep, hquote]
      rw [hother] at hbest
      by_cases hfeed : c = '\n'
      · subst hfeed
        exact .feed (ih hmore hbest)
      · exact .plain hquote hbackslash (hprintable hfeed) (ih hmore hbest)

/-! ## Texts as they are written -/

/-- A spelling is at least as long as its text. -/
theorem LongSpelled.length_le {run : Nat} {written text : List Char}
    (h : LongSpelled quote escapes run written text) : text.length ≤ written.length := by
  induction h with
  | nil => exact Nat.le_refl _
  | quote _ _ ih => exact Nat.succ_le_succ ih
  | plain _ _ _ _ ih => exact Nat.succ_le_succ ih
  | feed _ ih => exact Nat.succ_le_succ ih
  | escaped _ _ _ ih => simp only [List.length_cons, List.length_append]; omega

/-- The line feed that follows opening quotes is none of the text, and one that is of the text does not
follow them at once. -/
theorem LongSpelled.skipFirstBreak (hquote : LongQuote quote) {run : Nat} {written text : List Char}
    (h : LongSpelled quote escapes run written text) (rest : List Char) :
    skipFirstBreak ((if written.contains '\n' then ['\n'] else []) ++
      (written ++ quote :: quote :: quote :: '\n' :: rest)) =
      written ++ quote :: quote :: quote :: '\n' :: rest := by
  by_cases hfeed : '\n' ∈ written
  · simp [hfeed, TomlText.skipFirstBreak, lineBreak]
  · have hnone : lineBreak (written ++ quote :: quote :: quote :: '\n' :: rest) = none := by
      cases h with
      | nil => exact lineBreak_of_isPrintable hquote.isPrintable _
      | quote _ _ => exact lineBreak_of_isPrintable hquote.isPrintable _
      | plain _ _ hprintable _ => exact lineBreak_of_isPrintable hprintable _
      | feed _ => exact absurd List.mem_cons_self hfeed
      | escaped _ _ _ => exact lineBreak_of_isPrintable rfl _
    simp [hfeed, TomlText.skipFirstBreak, hnone]

/-- A text in long quotes, behind a line feed if it has one. -/
def longLead (written : List Char) : List Char := if written.contains '\n' then ['\n'] else []

/-- A spelling between three double quotes is read as its text. -/
theorem LongSpelled.quotedText_double {written text : List Char} (h : LongSpelled '"' true 0 written text)
    (rest : List Char) :
    quotedText ('"' :: '"' :: '"' :: (longLead written ++ (written ++ '"' :: '"' :: '"' :: '\n' :: rest))) =
      some (String.ofList text, '\n' :: rest) := by
  have hlength := h.length_le
  simp only [quotedText]
  rw [longLead, h.skipFirstBreak longQuote_double, h.longText longQuote_double (Nat.zero_le 2),
    Option.map_some]
  simp only [List.length_cons, List.length_append]
  omega

/-- A spelling between three single quotes is read as its text. -/
theorem LongSpelled.quotedText_single {written text : List Char} (h : LongSpelled '\'' false 0 written text)
    (rest : List Char) :
    quotedText ('\'' :: '\'' :: '\'' ::
        (longLead written ++ (written ++ '\'' :: '\'' :: '\'' :: '\n' :: rest))) =
      some (String.ofList text, '\n' :: rest) := by
  have hlength := h.length_le
  simp only [quotedText]
  rw [longLead, h.skipFirstBreak longQuote_single, h.longText longQuote_single (Nat.zero_le 2),
    Option.map_some]
  simp only [List.length_cons, List.length_append]
  omega

/-- The characters of a long text between double quotes. -/
theorem toList_betweenLong_double (text rest : List Char) :
    (betweenLong "\"\"\"" text).toList ++ rest =
      '"' :: '"' :: '"' :: (longLead text ++ (text ++ '"' :: '"' :: '"' :: rest)) := by
  simp only [betweenLong, longLead]
  split <;> simp

/-- The characters of a long text between single quotes. -/
theorem toList_betweenLong_single (text rest : List Char) :
    (betweenLong "'''" text).toList ++ rest =
      '\'' :: '\'' :: '\'' :: (longLead text ++ (text ++ '\'' :: '\'' :: '\'' :: rest)) := by
  simp only [betweenLong, longLead]
  split <;> simp

/-- What is written for a text is read as the text. -/
theorem quotedText_writeText (value : String) (rest : List Char) :
    quotedText ((writeText value).toList ++ '\n' :: rest) = some (value, '\n' :: rest) := by
  have hprintable : value.toList.any isControl = false → ∀ c ∈ value.toList, c ≠ '\n' →
      isPrintable c = true := by
    intro hcontrol c hc hfeed
    exact isPrintable_of_isControl (by simpa using List.any_eq_false.mp hcontrol c hc) hfeed
  have hvalue : String.ofList value.toList = value := String.ofList_toList
  unfold writeText
  simp only
  split
  · next h =>
    simp only [Bool.and_eq_true, Bool.not_eq_true', beq_iff_eq] at h
    obtain ⟨⟨⟨hcontrol, hbackslash⟩, hdoubles⟩, hnewline⟩ := h
    have hself : Spelled value.toList value.toList := by
      refine spelled_self fun c hc => ⟨?_, ?_, hprintable hcontrol c hc ?_⟩
      · rintro rfl
        exact not_mem_of_longestRun hdoubles hc
      · rintro rfl
        simp [hc] at hbackslash
      · rintro rfl
        simp [hc] at hnewline
    rw [toList_between_double, hself.quotedText, hvalue]
  split
  · next h =>
    simp only [Bool.and_eq_true, Bool.not_eq_true', beq_iff_eq] at h
    obtain ⟨⟨hcontrol, hsingles⟩, hnewline⟩ := h
    rw [toList_between_single, quotedText_literal, hvalue]
    intro c hc
    refine ⟨?_, hprintable hcontrol c hc ?_⟩
    · rintro rfl
      exact not_mem_of_longestRun hsingles hc
    · rintro rfl
      simp [hc] at hnewline
  split
  · next h =>
    simp only [Bool.and_eq_true, Bool.not_eq_true', decide_eq_true_eq] at h
    obtain ⟨⟨hcontrol, hbackslash⟩, hdoubles⟩ := h
    have hself : LongSpelled '"' true 0 value.toList value.toList := by
      refine longSpelled_self (fun c hc => ⟨fun _ => ?_, hprintable hcontrol c hc⟩) hdoubles
      rintro rfl
      simp [hc] at hbackslash
    rw [toList_betweenLong_double, hself.quotedText_double, hvalue]
  split
  · next h =>
    simp only [Bool.and_eq_true, Bool.not_eq_true', decide_eq_true_eq] at h
    obtain ⟨hcontrol, hsingles⟩ := h
    have hself : LongSpelled '\'' false 0 value.toList value.toList :=
      longSpelled_self (fun c hc => ⟨nofun, hprintable hcontrol c hc⟩) hsingles
    rw [toList_betweenLong_single, hself.quotedText_single, hvalue]
  split
  · rw [toList_betweenLong_double, (longSpelled_escape (Nat.zero_le 2) _).quotedText_double, hvalue]
  · rw [toList_between_double, (spelled_escape 0 _).quotedText, hvalue]

end TomlText

end Dimming
