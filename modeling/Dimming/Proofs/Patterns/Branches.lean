import Dimming.Proofs.Patterns.Places

/-!
# What the next character starts

The next character of a source decides which pattern is read there; where nothing is left, no pattern
starts and nothing that is open can close.
-/

set_option autoImplicit false

namespace Dimming

namespace PatternReader

variable {vocabulary : Vocabulary} {fuel : Nat} {state : State} {place : Place}

/-! ## Arguments and marks one by one -/

/-- Reads one argument of a predicate. -/
def argument (state : State) : Result Argument :=
  if state.next = '@' then
    if startsName state.advance.next then
      match state.advance.captures.findIdx? (· == state.advance.name.1) with
      | none => .error (.unknownCapture state.advance.offset)
      | some index => .ok (.capture index, state.advance.name.2)
    else .error (.malformed state.advance.offset)
  else if state.next = '"' then
    match state.string with
    | .error fault => .error fault
    | .ok (text, after) => .ok (.text text, after)
  else if startsName state.next then .ok (.text state.name.1, state.name.2)
  else .error (.malformed state.offset)

/-- Arguments are read one by one, up to the parenthesis that closes. -/
theorem arguments_succ (fuel : Nat) (done : List Argument) (state : State) :
    arguments (fuel + 1) done state
      = if state.next = ')' then .ok (done, state.advance.skip)
        else match argument state with
          | .error fault => .error fault
          | .ok (one, after) => arguments fuel (done ++ [one]) after.skip := by
  rw [arguments, argument]
  dsimp only
  split
  · rfl
  split
  · split
    · cases state.advance.captures.findIdx? (· == state.advance.name.1) <;> rfl
    · rfl
  split
  · cases state.string <;> rfl
  split <;> rfl

/-- What a mark says of how often a pattern occurs. -/
def timesMark : Char → Option (Pattern → Pattern)
  | '+' => some (.repeated · true)
  | '*' => some (.repeated · false)
  | '?' => some .optional
  | _ => none

/-- The three marks that tell how often a pattern occurs. -/
theorem timesMark_cases {c : Char} {times : Pattern → Pattern} (h : timesMark c = some times) :
    c = '+' ∧ times = (.repeated · true) ∨ c = '*' ∧ times = (.repeated · false)
      ∨ c = '?' ∧ times = .optional := by
  unfold timesMark at h
  split at h
  · exact Or.inl ⟨rfl, (Option.some.inj h).symm⟩
  · exact Or.inr (Or.inl ⟨rfl, (Option.some.inj h).symm⟩)
  · exact Or.inr (Or.inr ⟨rfl, (Option.some.inj h).symm⟩)
  · cases h

/-- A mark opens neither a string nor a comment. -/
theorem plain_of_timesMark {c : Char} {times : Pattern → Pattern} (h : timesMark c = some times) :
    c ≠ '"' ∧ c ≠ ';' := by
  obtain ⟨rfl, -⟩ | ⟨rfl, -⟩ | ⟨rfl, -⟩ := timesMark_cases h
  all_goals decide

/-- A mark of repetition is a suffix. -/
theorem suffixes_times {times : Pattern → Pattern} (h : timesMark state.next = some times)
    (fuel : Nat) (part : Pattern) :
    suffixes (fuel + 1) part state = suffixes fuel (times part) state.advance.skip := by
  rw [suffixes]
  obtain ⟨hnext, rfl⟩ | ⟨hnext, rfl⟩ | ⟨hnext, rfl⟩ := timesMark_cases h
  · rw [if_pos hnext]
  · rw [hnext, if_neg (by decide), if_pos rfl]
  · rw [hnext, if_neg (by decide), if_neg (by decide), if_pos rfl]

/-- A name behind an at sign is a suffix that captures the part before it. -/
theorem suffixes_capture (h : state.next = '@') (fuel : Nat) (part : Pattern) :
    suffixes (fuel + 1) part state
      = if startsName state.advance.next then
          suffixes fuel (part.mapFirst (NodeSpec.addCapture
              (numberIn state.advance.name.2.skip.captures state.advance.name.1)))
            (state.advance.name.2.skip.having
              (withName state.advance.name.2.skip.captures state.advance.name.1)
              state.advance.name.2.skip.calls)
        else .error (.malformed state.advance.offset) := by
  rw [suffixes, h, if_neg (by decide), if_neg (by decide), if_neg (by decide), if_pos rfl]
  dsimp only
  rw [addCapture_eq]

/-- No mark is next. -/
theorem suffixes_unmarked (htimes : timesMark state.next = none) (hcapture : state.next ≠ '@')
    (fuel : Nat) (part : Pattern) : suffixes (fuel + 1) part state = .ok (part, state) := by
  refine suffixes_of_none ?_ fuel part
  intro hmem
  simp only [List.mem_cons, List.not_mem_nil, or_false] at hmem
  obtain h | h | h | h := hmem
  · rw [h] at htimes
    cases htimes
  · rw [h] at htimes
    cases htimes
  · rw [h] at htimes
    cases htimes
  · exact hcapture h

/-! ## No fuel -/

/-- Without fuel no pattern is read. -/
theorem pattern_zero (place : Place) :
    pattern vocabulary 0 place state = .error (.malformed state.offset) := by
  rw [pattern]

/-- Without fuel no options are read. -/
theorem options_zero (place : Place) (anchored : Bool) (done : List Pattern) :
    options vocabulary 0 place anchored done state = .error (.malformed state.offset) := by
  rw [options]

/-- Without fuel no row is read. -/
theorem row_zero (outer : Option Nat) (anchored : Bool) (done : List Pattern) :
    row vocabulary 0 outer anchored done state = .error (.malformed state.offset) := by
  rw [row]

/-- Without fuel no items are read. -/
theorem items_zero (spec : NodeSpec) (anchored : Bool) (done : List Pattern) :
    items vocabulary 0 spec anchored done state = .error (.malformed state.offset) := by
  rw [items]

/-! ## Ends -/

/-- At the end nothing is skipped. -/
theorem skip_of_nil {state : State} (h : state.rest = []) : state.skip = state :=
  skip_eq_self (by rw [h]; rfl)

/-- At the end there is no suffix. -/
theorem suffixes_of_nil {state : State} (h : state.rest = []) (fuel : Nat) (part : Pattern) :
    suffixes (fuel + 1) part state = .ok (part, state) :=
  suffixes_of_none (by rw [State.next_of_nil h]; decide) fuel part

/-- At the end a part is finished as it is. -/
theorem finish_of_nil {state : State} (h : state.rest = []) (part : Pattern) :
    finish (.ok (part, state)) = .ok (.pattern part, state) := by
  rw [finish, skip_of_nil h, suffixes_of_nil h]

/-- At the end there is no pattern. -/
theorem pattern_of_nil {state : State} (h : state.rest = []) (fuel : Nat) (place : Place) :
    pattern vocabulary fuel place state = .error (.malformed state.offset) := by
  cases fuel with
  | zero => exact pattern_zero place
  | succ fuel => rw [pattern, if_pos (State.next_of_nil h)]

/-- Where no dot stands there is no anchor. -/
theorem anchor_of_next {state : State} (h : state.next ≠ '.') (anchored : Bool) :
    anchor state anchored = (anchored, state) := if_neg h

/-- At the end a choice is not closed. -/
theorem options_of_nil {state : State} (h : state.rest = []) (fuel : Nat) (place : Place)
    (anchored : Bool) (done : List Pattern) :
    options vocabulary fuel place anchored done state = .error (.malformed state.offset) := by
  cases fuel with
  | zero => exact options_zero place anchored done
  | succ fuel => rw [options, pattern_of_nil h]

/-- At the end a row is not closed. -/
theorem row_of_nil {state : State} (h : state.rest = []) (fuel : Nat) (outer : Option Nat)
    (anchored : Bool) (done : List Pattern) :
    row vocabulary fuel outer anchored done state = .error (.malformed state.offset) := by
  cases fuel with
  | zero => exact row_zero outer anchored done
  | succ fuel =>
    rw [row, anchor_of_next (by rw [State.next_of_nil h]; decide)]
    dsimp only
    rw [pattern_of_nil h]

/-- At the end a node is not closed. -/
theorem items_of_nil {state : State} (h : state.rest = []) (fuel : Nat) (spec : NodeSpec)
    (anchored : Bool) (done : List Pattern) :
    items vocabulary fuel spec anchored done state = .error (.malformed state.offset) := by
  have hnext := State.next_of_nil h
  cases fuel with
  | zero => rw [items]
  | succ fuel =>
    rw [items, if_neg (by rw [hnext]; decide), anchor_of_next (by rw [hnext]; decide)]
    dsimp only
    rw [pattern_of_nil h]

/-! ## What the next character says -/

/-- An opening bracket starts a choice. -/
theorem pattern_choice (h : state.next = '[') :
    pattern vocabulary (fuel + 1) place state
      = finish (options vocabulary fuel ⟨some (place.outer.getD state.offset), place.anchored⟩
        place.anchored [] state.advance.skip) := by
  rw [pattern]
  dsimp only
  rw [h, if_neg (by decide), if_neg (by decide), if_pos rfl]
  rfl

/-- A parenthesis before another opening sign or a quote starts a row. -/
theorem pattern_row (h : state.next = '(')
    (hinside : state.advance.skip.next = '(' ∨ state.advance.skip.next = '"'
      ∨ state.advance.skip.next = '[') :
    pattern vocabulary (fuel + 1) place state
      = finish (row vocabulary fuel (some (place.outer.getD state.offset)) place.anchored []
        state.advance.skip) := by
  rw [pattern]
  dsimp only
  rw [h, if_neg (by decide), if_neg (by decide), if_neg (by decide), if_pos rfl, if_pos hinside]
  rfl

/-- A parenthesis before a dot or a hash sign starts a call. -/
theorem pattern_call (h : state.next = '(')
    (hinside : state.advance.skip.next = '.' ∨ state.advance.skip.next = '#') :
    pattern vocabulary (fuel + 1) place state
      = match call state.advance.skip.advance with
        | .error fault => .error fault
        | .ok ((), after) => .ok (.call, after) := by
  have hother : ¬ (state.advance.skip.next = '(' ∨ state.advance.skip.next = '"'
      ∨ state.advance.skip.next = '[') := by
    obtain h | h := hinside
    all_goals
      rw [h]
      decide
  rw [pattern]
  dsimp only
  rw [h, if_neg (by decide), if_neg (by decide), if_neg (by decide), if_pos rfl, if_neg hother]
  exact if_pos hinside

/-- What a pattern for one node asks for before the marks behind it are read. -/
def specOf (place : Place) (offset : Nat) (test : NodeTest) : NodeSpec :=
  ⟨test, none, [], place.anchored, false, [], place.outer.getD offset⟩

/-- A parenthesis before a name starts a node. -/
theorem pattern_node (h : state.next = '(') (hinside : startsName state.advance.skip.next = true) :
    pattern vocabulary (fuel + 1) place state
      = match nodeTest vocabulary state.advance.skip.name.1 state.advance.skip.offset
          state.advance.skip.name.2 with
        | .error fault => .error fault
        | .ok (test, after) =>
          match familyMember vocabulary test state.advance.skip.offset after with
          | .error fault => .error fault
          | .ok (test, after) =>
            finish (items vocabulary fuel (specOf place state.offset test) false [] after.skip) := by
  have hother : ¬ (state.advance.skip.next = '(' ∨ state.advance.skip.next = '"'
      ∨ state.advance.skip.next = '[')
      ∧ ¬ (state.advance.skip.next = '.' ∨ state.advance.skip.next = '#') := by
    refine ⟨?_, ?_⟩
    · rintro (h | h | h)
      all_goals
        rw [h] at hinside
        exact absurd hinside (by decide)
    · rintro (h | h)
      all_goals
        rw [h] at hinside
        exact absurd hinside (by decide)
  rw [pattern]
  dsimp only
  rw [h, if_neg (by decide), if_neg (by decide), if_neg (by decide), if_pos rfl, if_neg hother.1,
    if_neg hother.2, if_pos hinside]
  rfl

/-- A parenthesis before anything else starts nothing. -/
theorem pattern_other (h : state.next = '(')
    (hrow : ¬ (state.advance.skip.next = '(' ∨ state.advance.skip.next = '"'
      ∨ state.advance.skip.next = '['))
    (hcall : ¬ (state.advance.skip.next = '.' ∨ state.advance.skip.next = '#'))
    (hname : startsName state.advance.skip.next ≠ true) :
    pattern vocabulary (fuel + 1) place state = .error (.malformed state.advance.skip.offset) := by
  rw [pattern]
  dsimp only
  rw [h, if_neg (by decide), if_neg (by decide), if_neg (by decide), if_pos rfl, if_neg hrow,
    if_neg hcall, if_neg hname]

/-- An underscore stands for any node. -/
theorem pattern_any (h : state.next = '_') :
    pattern vocabulary (fuel + 1) place state
      = finish (.ok (.node (specOf place state.offset .anything) [], state.advance.skip)) := by
  rw [pattern]
  dsimp only
  rw [h, if_neg (by decide), if_neg (by decide), if_neg (by decide), if_neg (by decide), if_pos rfl]
  rfl

/-- A quoted text stands for a token. -/
theorem pattern_token (h : state.next = '"') :
    pattern vocabulary (fuel + 1) place state
      = match state.string with
        | .error fault => .error fault
        | .ok (spelling, after) =>
          match vocabulary.token? spelling with
          | none => .error (.unknownKind (state.offset + 1))
          | some test => finish (.ok (.node (specOf place state.offset test) [], after)) := by
  rw [pattern]
  dsimp only
  rw [h, if_neg (by decide), if_neg (by decide), if_neg (by decide), if_neg (by decide),
    if_neg (by decide), if_pos rfl]
  rfl

/-- Any other name is that of a field, with a pattern behind it. -/
theorem pattern_field (hstarts : startsName state.next = true) (hany : state.next ≠ '_') :
    pattern vocabulary (fuel + 1) place state
      = if state.name.2.skip.next ≠ ':' then .error (.malformed state.offset)
        else
          match pattern vocabulary fuel ⟨some (place.outer.getD state.offset), place.anchored⟩
              state.name.2.skip.advance.skip with
          | .error fault => .error fault
          | .ok (.ended, after) => .error (.malformed after.offset)
          | .ok (.call, after) => .ok (.call, after)
          | .ok (.pattern part, after) =>
            if vocabulary.fields.contains state.name.1 then
              finish (.ok (part.mapFirst (fun spec => { spec with field := some state.name.1 }), after))
            else .error (.unknownField state.offset) := by
  have hne {c : Char} (hc : startsName c = false) : state.next ≠ c := by
    rintro rfl
    rw [hstarts] at hc
    cases hc
  have hclosing : ¬ (state.next = ')' ∨ state.next = ']') := by
    rintro (h | h)
    · exact hne (by decide) h
    · exact hne (by decide) h
  rw [pattern]
  dsimp only
  rw [if_neg (hne (by decide)), if_neg hclosing, if_neg (hne (by decide)), if_neg (hne (by decide)),
    if_neg hany, if_neg (hne (by decide)), if_pos hstarts]
  rfl

/-- Nothing else starts a pattern. -/
theorem pattern_unreadable (hclosing : ¬ (state.next = ')' ∨ state.next = ']'))
    (hchoice : state.next ≠ '[') (hopens : state.next ≠ '(') (hany : state.next ≠ '_')
    (hquote : state.next ≠ '"') (hname : startsName state.next ≠ true) :
    pattern vocabulary (fuel + 1) place state = .error (.malformed state.offset) := by
  rw [pattern]
  dsimp only
  by_cases hnull : state.next = '\x00'
  · rw [if_pos hnull]
  · rw [if_neg hnull, if_neg hclosing, if_neg hchoice, if_neg hopens, if_neg hany, if_neg hquote,
      if_neg hname]

/-! ## Patterns of a source -/

/-- At the end all patterns have been read. -/
theorem tops_of_nil {state : State} (h : state.rest = []) (fuel : Nat) (done : List Top) :
    tops vocabulary (fuel + 1) done state = .ok (done, state) := by
  rw [tops, if_pos h]

/-- Patterns are only added to those read, and what is left to read adds one. -/
theorem length_lt_tops {fuel : Nat} {done found : List Top} {state after : State}
    (h : tops vocabulary fuel done state = .ok (found, after)) :
    done.length ≤ found.length ∧ (state.rest ≠ [] → done.length < found.length) := by
  induction fuel generalizing done state with
  | zero => cases h
  | succ fuel ih =>
    by_cases hrest : state.rest = []
    · rw [tops_of_nil hrest] at h
      cases h
      exact ⟨Nat.le_refl _, fun hsome => absurd hrest hsome⟩
    · have hmore : done.length < found.length := by
        rw [tops, if_neg hrest] at h
        dsimp only at h
        split at h
        · cases h
        · cases h
        all_goals
          have hlength := (ih h).1
          rw [List.length_append, List.length_singleton] at hlength
          exact hlength
      exact ⟨Nat.le_of_lt hmore, fun _ => hmore⟩

/-- Nothing is left to read behind the only pattern. -/
theorem eq_of_tops {fuel : Nat} {one top : Top} {state after : State}
    (h : tops vocabulary (fuel + 1) [one] state = .ok ([top], after)) :
    state.rest = [] ∧ top = one ∧ after = state := by
  have hnil : state.rest = [] := by
    by_contra hrest
    exact absurd ((length_lt_tops h).2 hrest) (Nat.lt_irrefl _)
  rw [tops_of_nil hnil] at h
  cases h
  exact ⟨hnil, rfl, rfl⟩

/-- The only pattern of a source and what is behind it. -/
theorem read_of_pattern {text : List Char} {own : Pattern} {after : State}
    (hsome : (State.skip ⟨text, 0, [], []⟩).rest ≠ [])
    (hread : pattern vocabulary (2 * (State.skip ⟨text, 0, [], []⟩).rest.length + 4) ⟨none, false⟩
      (State.skip ⟨text, 0, [], []⟩) = .ok (.pattern own, after))
    (hend : after.rest = []) :
    read vocabulary text = .ok ([⟨own, after.calls, (State.skip ⟨text, 0, [], []⟩).offset⟩],
      after.captures) := by
  obtain ⟨fuel, hfuel⟩ : ∃ fuel, text.length = fuel + 1 := by
    have hlength := length_skip_le ⟨text, 0, [], []⟩
    have hpos := List.length_pos_iff.mpr hsome
    exact Nat.exists_eq_succ_of_ne_zero (Nat.ne_zero_of_lt (Nat.lt_of_lt_of_le hpos hlength))
  rw [read, hfuel, tops, if_neg hsome]
  dsimp only
  have hcalls : { State.skip ⟨text, 0, [], []⟩ with calls := [] } = State.skip ⟨text, 0, [], []⟩ := rfl
  rw [hcalls, hread]
  dsimp only
  rw [tops_of_nil hend]
  rfl

end PatternReader

end Dimming
