import Dimming.Proofs.Patterns.Comments
import Dimming.Proofs.Patterns.Places

/-!
# Two texts side by side

The source of a rule is a text with a mark behind it: a blank and a capture. Readers of the text and of
the source go side by side as long as they stay in the text. They part at its end only, in front of the
capture when the end of the text lies outside of comments and behind the mark when it lies in one.
-/

set_option autoImplicit false

namespace Dimming

namespace PatternReader

/-- What is put behind a pattern: a blank and a capture. -/
def ruleMark : List Char := " @rule".toList

/-- Two readers at the same place of a text: for the first one the mark stands behind the text. `final`
tells where the end of the text lies. -/
structure Beside (final : Scan) (long short : State) : Prop where
  rest : long.rest = short.rest ++ ruleMark
  offset : long.offset = short.offset
  captures : long.captures = short.captures
  calls : long.calls = short.calls
  scan : Scan.plain.after short.rest = final

/-- The same two readers when blanks and comments are passed. -/
inductive Along (final : Scan) (long short : State) : Prop
  /-- The text goes on. -/
  | inside (h : Beside final long short) (hsome : short.rest ≠ [])
  /-- The text is at its end, and the capture is next. -/
  | due (hlong : long.rest = "@rule".toList) (hshort : short.rest = [])
      (hcaptures : long.captures = short.captures) (hcalls : long.calls = short.calls)
      (hscan : final = .plain)
  /-- The text is at its end, and its last comment has swallowed the mark. -/
  | passed (hlong : long.rest = []) (hshort : short.rest = [])
      (hcaptures : long.captures = short.captures) (hcalls : long.calls = short.calls)
      (hscan : final = .comment)

variable {final : Scan} {long short : State}

/-- Going past as many characters keeps two readings side by side. -/
theorem Beside.past (h : Beside final long short) {count : Nat} (hcount : count ≤ short.rest.length)
    (hscan : Scan.plain.after (short.rest.drop count) = final) :
    Beside final (long.past count) (short.past count) where
  rest := by
    show long.rest.drop count = short.rest.drop count ++ ruleMark
    rw [h.rest, List.drop_append_of_le_length hcount]
  offset := by
    show long.offset + Text.byteLength (long.rest.take count)
      = short.offset + Text.byteLength (short.rest.take count)
    rw [h.offset, h.rest, List.take_append_of_le_length hcount]
  captures := h.captures
  calls := h.calls
  scan := hscan

/-! ## Blanks -/

/-- How the blanks and comments at the start of a text end when the mark stands behind it. -/
inductive BlankEnd (scan : Scan) (text : List Char) (count behind : Nat) : Prop
  /-- Inside the text. -/
  | inside (hbehind : behind = count) (hcount : count < text.length)
      (hscan : scan.after text = Scan.plain.after (text.drop count))
  /-- At the capture. -/
  | due (hbehind : behind = text.length + 1) (hcount : count = text.length)
      (hscan : scan.after text = .plain)
  /-- In a comment, which reads over the mark. -/
  | passed (hbehind : behind = (text ++ ruleMark).length) (hcount : count = text.length)
      (hscan : scan.after text = .comment)

/-- A character that is passed leaves the end to those behind it. -/
theorem BlankEnd.cons {scan : Scan} {text : List Char} {count behind : Nat} {c : Char}
    (h : BlankEnd (scan.next c) text count behind) :
    BlankEnd scan (c :: text) (count + 1) (behind + 1) := by
  cases h with
  | inside hbehind hcount hscan =>
    exact .inside (congrArg (· + 1) hbehind) (Nat.succ_lt_succ hcount) hscan
  | due hbehind hcount hscan =>
    exact .due (congrArg (· + 1) hbehind) (congrArg (· + 1) hcount) hscan
  | passed hbehind hcount hscan =>
    exact .passed (congrArg (· + 1) hbehind) (congrArg (· + 1) hcount) hscan

/-- Whether blanks are passed or a comment is open. -/
def Scan.ofBlank (isOpen : Bool) : Scan := if isOpen then .comment else .plain

/-- Blanks end at the same place with the mark behind the text, or they run to the end of it. -/
theorem blankEnd_blankLength (text : List Char) (isOpen : Bool) :
    BlankEnd (Scan.ofBlank isOpen) text (blankLength isOpen text)
      (blankLength isOpen (text ++ ruleMark)) := by
  induction text generalizing isOpen with
  | nil =>
    cases isOpen with
    | false => exact .due (by decide) rfl rfl
    | true => exact .passed (by decide) rfl rfl
  | cons c rest ih =>
    cases isOpen with
    | false =>
      rw [List.cons_append, blankLength, blankLength]
      split
      · rename_i hblank
        obtain ⟨hquote, hcomment⟩ := not_opens_of_isBlank hblank
        exact .cons ((Scan.next_plain hquote hcomment).symm ▸ ih false)
      · split
        · rename_i hcomment
          obtain rfl : c = ';' := beq_iff_eq.mp hcomment
          exact .cons (ih true)
        · exact .inside rfl (Nat.zero_lt_succ _) rfl
    | true =>
      rw [List.cons_append, blankLength, blankLength]
      split
      · rename_i hnull
        obtain rfl : c = '\x00' := beq_iff_eq.mp hnull
        exact .inside rfl (Nat.zero_lt_succ _) rfl
      · rename_i hnull
        split
        · rename_i hfeed
          obtain rfl : c = '\n' := beq_iff_eq.mp hfeed
          exact .cons (ih false)
        · rename_i hfeed
          have hnext : Scan.comment.next c = .comment := by
            rw [Scan.next, if_neg]
            rintro (rfl | rfl)
            · exact hfeed rfl
            · exact hnull rfl
          exact .cons (hnext.symm ▸ ih true)

/-- Passing blanks takes readers side by side to the same place, unless the text ends there. -/
theorem Beside.skip (h : Beside final long short) : Along final long.skip short.skip := by
  have hend := blankEnd_blankLength short.rest false
  rw [← h.rest] at hend
  have hrest (state : State) :
      state.skip.rest = state.rest.drop (blankLength false state.rest) := rfl
  cases hend with
  | inside hbehind hcount hscan =>
    have hpast : Beside final (long.past (blankLength false short.rest)) short.skip :=
      h.past (Nat.le_of_lt hcount) (hscan.symm.trans h.scan)
    rw [← hbehind] at hpast
    refine .inside hpast ?_
    rw [hrest]
    exact List.ne_nil_of_length_pos (by rw [List.length_drop]; omega)
  | due hbehind hcount hscan =>
    refine .due ?_ ?_ h.captures h.calls (h.scan.symm.trans hscan)
    · rw [hrest, hbehind, h.rest, List.drop_append, List.drop_of_length_le (Nat.le_succ _),
        Nat.add_sub_cancel_left, List.nil_append]
      rfl
    · rw [hrest, hcount, List.drop_length]
  | passed hbehind hcount hscan =>
    refine .passed ?_ ?_ h.captures h.calls (h.scan.symm.trans hscan)
    · rw [hrest, hbehind, h.rest, List.drop_length]
    · rw [hrest, hcount, List.drop_length]

/-! ## Characters, names and strings -/

/-- Two readings side by side have the same next character. -/
theorem Beside.next (h : Beside final long short) (hsome : short.rest ≠ []) :
    short.next = long.next := by
  obtain ⟨rest, hrest⟩ := State.exists_rest hsome
  have hlong : long.rest = short.next :: (rest ++ ruleMark) := by
    rw [h.rest]
    exact congrArg (· ++ ruleMark) hrest
  exact (State.next_of_rest hlong).symm

/-- Where a character comes next that neither starts nor ends the mark, the readings are side by side. -/
theorem Along.inside_of_next (h : Along final long short) {c : Char} (hnext : long.next = c)
    (hc : c ≠ '@' ∧ c ≠ '\x00' := by decide) : Beside final long short ∧ short.rest ≠ [] := by
  cases h with
  | inside h hsome => exact ⟨h, hsome⟩
  | due hlong => exact absurd (hnext.symm.trans (State.next_of_rest hlong)) hc.1
  | passed hlong => exact absurd (hnext.symm.trans (State.next_of_nil hlong)) hc.2

/-- What is not next with the mark behind the text is not next in the text. -/
theorem Along.next_ne (h : Along final long short) {c : Char} (hnext : long.next ≠ c)
    (hnull : c ≠ '\x00') : short.next ≠ c := by
  by_cases hsome : short.rest = []
  · rw [State.next_of_nil hsome]
    exact hnull.symm
  · cases h with
    | inside h => rwa [h.next hsome]
    | due _ hshort => exact absurd hshort hsome
    | passed _ hshort => exact absurd hshort hsome

/-- A character that opens neither a string nor a comment is passed in both texts. -/
theorem Beside.advance (h : Beside final long short) (hsome : short.rest ≠ []) {c : Char}
    (hnext : long.next = c) (hc : c ≠ '"' ∧ c ≠ ';' := by decide) :
    Beside final long.advance short.advance := by
  obtain ⟨rest, hrest⟩ := State.exists_rest hsome
  have hlong : long.rest ≠ [] := by
    rw [h.rest, hrest]
    exact nofun
  rw [advance_eq_past hsome, advance_eq_past hlong]
  refine h.past (List.length_pos_iff.mpr hsome) ?_
  rw [← h.scan, hrest, h.next hsome, hnext]
  show Scan.plain.after rest = (Scan.plain.next c).after rest
  rw [Scan.next_plain hc.1 hc.2]

/-- The mark lengthens no name. -/
theorem nameOf_append_ruleMark {text : List Char} (h : text ≠ []) :
    nameOf (text ++ ruleMark) = nameOf text := by
  obtain ⟨c, rest, rfl⟩ := List.exists_cons_of_ne_nil h
  have htake : (rest ++ ruleMark).takeWhile continuesName = rest.takeWhile continuesName := by
    rw [List.takeWhile_append]
    split
    · have hmark : ruleMark.takeWhile continuesName = [] := by decide
      rw [hmark, List.append_nil]
      rename_i hall
      exact (List.takeWhile_prefix continuesName).eq_of_length hall |>.symm
    · rfl
  rw [List.cons_append, nameOf, nameOf, htake]

/-- A name is the start of a text; nothing in it opens a string or a comment. -/
theorem nameOf_splits {c : Char} (h : startsName c = true) (rest : List Char) :
    ∃ behind, c :: rest = nameOf (c :: rest) ++ behind ∧
      ∀ d ∈ nameOf (c :: rest), d ≠ '"' ∧ d ≠ ';' := by
  refine ⟨rest.dropWhile continuesName, ?_, fun d hd => not_opens_of_continuesName ?_⟩
  · rw [nameOf, List.cons_append, List.takeWhile_append_dropWhile]
  · obtain rfl | hd := List.mem_cons.mp hd
    · rw [continuesName, h, Bool.true_or]
    · exact (List.all_eq_true.mp List.all_takeWhile) d hd

/-- A name is read alike side by side. -/
theorem Beside.name (h : Beside final long short) (hsome : short.rest ≠ [])
    (hstarts : startsName long.next = true) :
    short.name.1 = long.name.1 ∧ Beside final long.name.2 short.name.2
      ∧ short.name.2.rest.length < short.rest.length := by
  obtain ⟨rest, hrest⟩ := State.exists_rest hsome
  rw [h.next hsome] at hrest
  obtain ⟨behind, hsplit, hplain⟩ := nameOf_splits hstarts rest
  rw [← hrest] at hsplit hplain
  have hname : nameOf long.rest = nameOf short.rest := by rw [h.rest, nameOf_append_ruleMark hsome]
  have hpos : 0 < (nameOf short.rest).length := by
    rw [hrest]
    exact Nat.zero_lt_succ _
  rw [name_eq, name_eq, hname]
  generalize nameOf short.rest = word at hsplit hplain hpos
  have hlength : word.length ≤ short.rest.length := by
    rw [hsplit, List.length_append]
    exact Nat.le_add_right _ _
  refine ⟨rfl, h.past hlength ?_, ?_⟩
  · rw [← h.scan, hsplit, List.drop_left, Scan.after_plain hplain]
  · rw [length_past]
    omega

/-- A string goes on with a character, unless that is a quote or a line feed. -/
theorem stringBody_cons {c : Char} (h : c ≠ '\\') (rest : List Char) :
    stringBody (c :: rest) = if c = '"' then some ([], 1) else if c = '\n' then none
      else (stringBody rest).map (fun (text, count) => (c :: text, count + 1)) := by
  rw [stringBody]
  · rintro rfl
    exact absurd rfl h
  · rintro d more rfl
    exact absurd rfl h

/-- A string that ends in front of the mark ends in the text, and what lies behind its characters lies
behind its closing quote. -/
theorem stringBody_append_ruleMark (text : List Char) {value : List Char} {count : Nat}
    (h : stringBody (text ++ ruleMark) = some (value, count)) :
    stringBody text = some (value, count) ∧ count ≤ text.length
      ∧ Scan.quoted.after text = Scan.plain.after (text.drop count) := by
  fun_induction stringBody text generalizing value count with
  | case1 => cases h
  | case2 => cases h
  | case3 c rest meant =>
    rename_i ih
    obtain ⟨⟨inner, length⟩, hinner, heq⟩ := Option.map_eq_some_iff.mp h
    obtain ⟨hbody, hlength, hscan⟩ := ih hinner
    cases heq
    refine ⟨by rw [hbody]; rfl, Nat.add_le_add_right hlength 2, ?_⟩
    exact hscan
  | case4 rest =>
    rw [List.cons_append, stringBody_cons (by decide), if_pos rfl] at h
    cases h
    exact ⟨rfl, Nat.succ_le_succ (Nat.zero_le _), rfl⟩
  | case5 rest =>
    rw [List.cons_append, stringBody_cons (by decide), if_neg (by decide), if_pos rfl] at h
    cases h
  | case6 c rest hlast hmore hquote hfeed ih =>
    have hslash : c ≠ '\\' := by
      intro hslash
      cases rest with
      | nil => exact hlast hslash rfl
      | cons d more => exact hmore d more hslash rfl
    rw [List.cons_append, stringBody_cons hslash, if_neg hquote, if_neg hfeed] at h
    obtain ⟨⟨inner, length⟩, hinner, heq⟩ := Option.map_eq_some_iff.mp h
    obtain ⟨hbody, hlength, hscan⟩ := ih hinner
    cases heq
    refine ⟨by rw [hbody]; rfl, Nat.succ_le_succ hlength, ?_⟩
    have hnext : Scan.quoted.next c = .quoted := by
      rw [Scan.next, if_neg hquote, if_neg hslash]
    rw [Scan.after_cons, hnext]
    exact hscan

/-- A quoted text is read alike side by side. -/
theorem Beside.string (h : Beside final long short) (hsome : short.rest ≠ [])
    (hquote : long.next = '"') {value : String} {longAfter : State}
    (hlong : long.string = .ok (value, longAfter)) :
    ∃ shortAfter, short.string = .ok (value, shortAfter) ∧ Beside final longAfter shortAfter
      ∧ shortAfter.rest.length < short.rest.length ∧ shortAfter.captures = short.captures := by
  obtain ⟨rest, hrest⟩ := State.exists_rest hsome
  rw [h.next hsome, hquote] at hrest
  rw [State.string, h.rest, hrest] at hlong
  cases hbody : stringBody (rest ++ ruleMark) with
  | none =>
    rw [List.cons_append, List.drop_succ_cons, List.drop_zero, hbody] at hlong
    cases hlong
  | some body =>
    obtain ⟨text, count⟩ := body
    rw [List.cons_append, List.drop_succ_cons, List.drop_zero, hbody] at hlong
    cases hlong
    obtain ⟨hshort, hlength, hscan⟩ := stringBody_append_ruleMark rest hbody
    refine ⟨short.past (count + 1), ?_, h.past ?_ ?_, ?_, rfl⟩
    · rw [State.string, hrest, List.drop_succ_cons, List.drop_zero, hshort]
    · rw [hrest]
      exact Nat.succ_le_succ hlength
    · rw [← h.scan, hrest, List.drop_succ_cons]
      exact hscan.symm
    · rw [length_past, hrest, List.length_cons]
      omega

end PatternReader

end Dimming
