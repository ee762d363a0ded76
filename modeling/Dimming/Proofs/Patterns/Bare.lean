import Dimming.Rules.Rule
import Mathlib.Tactic.Common

/-!
# Patterns of bare kinds

A pattern that is nothing but a kind in parentheses, or a choice of such kinds in brackets, compiles for
every language that knows the kinds. The reader goes through the source kind by kind; what it makes of
it asks for nothing inside a node, so no grammar finds it impossible, and the capture of the rule is the
only one.
-/

set_option autoImplicit false

namespace Dimming

namespace PatternReader

/-- A name that starts with a small letter, as the kinds of named nodes do. -/
def isPlain : List Char → Bool
  | [] => false
  | c :: rest => c.isLower && rest.all continuesName

/-- The source of one bare kind. -/
def kindSource (name tail : List Char) : List Char := '(' :: (name ++ ')' :: tail)

/-- The marks behind a pattern are read in the end. -/
def finish (result : Result Pattern) : Result Piece :=
  match result with
  | .error fault => .error fault
  | .ok (pattern, state) =>
    match suffixes (state.rest.length + 1) pattern state.skip with
    | .error fault => .error fault
    | .ok (pattern, state) => .ok (.pattern pattern, state)

/-- A plain name of a kind that a vocabulary knows. -/
structure Names (vocabulary : Vocabulary) (name : List Char) : Prop where
  plain : isPlain name = true
  known : String.ofList name ∈ vocabulary.kinds

/-- A small letter starts a name. -/
theorem startsName_of_isLower {c : Char} (h : c.isLower = true) : startsName c = true := by
  show ((c.isUpper || c.isLower || c.isDigit) || c == '_' || c == '-') = true
  rw [h]
  simp

/-- Where no blank stands nothing is skipped. -/
theorem skip_eq_self {state : State} (h : blankLength false state.rest = 0) : state.skip = state := by
  rw [State.skip, h]
  rfl

/-- What starts a name is no blank. -/
theorem blankLength_of_startsName {c : Char} (h : startsName c = true) (rest : List Char) :
    blankLength false (c :: rest) = 0 := by
  have hblank : isBlank c = false := by
    rw [← Bool.not_eq_true]
    intro hblank
    simp only [isBlank, Bool.or_eq_true, beq_iff_eq] at hblank
    obtain ((((rfl | rfl) | rfl) | rfl) | hc) | hc := hblank
    · exact absurd h (by decide)
    · exact absurd h (by decide)
    · exact absurd h (by decide)
    · exact absurd h (by decide)
    · obtain rfl : c = Char.ofNat 0x0B := by rw [← hc, Char.ofNat_toNat]
      exact absurd h (by decide)
    · obtain rfl : c = Char.ofNat 0x0C := by rw [← hc, Char.ofNat_toNat]
      exact absurd h (by decide)
  have hsemi : c ≠ ';' := by
    rintro rfl
    exact absurd h (by decide)
  simp [blankLength, hblank, hsemi]

/-- A name ends at the closing parenthesis. -/
theorem takeWhile_name {rest : List Char} (h : rest.all continuesName = true) (tail : List Char) :
    (rest ++ ')' :: tail).takeWhile continuesName = rest := by
  rw [List.takeWhile_append_of_pos (List.all_eq_true.mp h),
    List.takeWhile_cons_of_neg (by decide), List.append_nil]

/-- A closing bracket ends a list of patterns. -/
theorem pattern_ended (vocabulary : Vocabulary) (fuel : Nat) (place : Place) {state : State}
    (h : state.next = ')' ∨ state.next = ']') :
    pattern vocabulary (fuel + 1) place state = .ok (.ended, state) := by
  have hnull : state.next ≠ '\x00' := by
    intro hnull
    rw [hnull] at h
    exact absurd h (by decide)
  rw [pattern]
  dsimp only
  rw [if_neg hnull, if_pos h]

/-- A closing parenthesis ends a node. -/
theorem items_ended (vocabulary : Vocabulary) (fuel : Nat) (spec : NodeSpec) (done : List Pattern)
    {state : State} (h : state.next = ')') :
    items vocabulary (fuel + 2) spec false done state = .ok (.node spec done, state.advance) := by
  have hanchor : anchor state false = (false, state) := by
    rw [anchor, if_neg]
    rw [h]
    decide
  rw [items, if_neg (by rw [h]; decide), hanchor]
  dsimp only
  rw [pattern_ended vocabulary fuel _ (Or.inl h)]
  dsimp only
  rw [if_neg (not_not.mpr h), if_neg Bool.false_ne_true]

/-- A plain name is none of those that mean more than a kind. -/
theorem isPrefixOf_of_isLower {c : Char} (h : c.isLower = true) {other : Char}
    (hother : other.isLower = false) (rest more : List Char) :
    (c :: rest).isPrefixOf (other :: more) = false := by
  have hne : c ≠ other := by
    rintro rfl
    rw [h] at hother
    cases hother
  rw [List.isPrefixOf, beq_eq_false_iff_ne.mpr hne, Bool.false_and]

/-- The name of a known kind tests for that kind. -/
theorem nodeTest_name {vocabulary : Vocabulary} {name : List Char} (h : Names vocabulary name)
    (start : Nat) (state : State) :
    nodeTest vocabulary (String.ofList name) start state
      = .ok (.kind (String.ofList name) true, state) := by
  obtain ⟨hplain, hknown⟩ := h
  cases name with
  | nil => cases hplain
  | cons c rest =>
    rw [isPlain, Bool.and_eq_true] at hplain
    have hword : String.ofList (c :: rest) ≠ "_" := by
      intro heq
      obtain ⟨rfl, -⟩ := List.cons.inj (String.ofList_injective heq : c :: rest = ['_'])
      exact absurd hplain.1 (by decide)
    have hmissing : (String.ofList (c :: rest)).toList.isPrefixOf "MISSING".toList = false := by
      rw [String.toList_ofList]
      exact isPrefixOf_of_isLower hplain.1 (by decide) rest _
    have herror : (String.ofList (c :: rest)).toList.isPrefixOf "ERROR".toList = false := by
      rw [String.toList_ofList]
      exact isPrefixOf_of_isLower hplain.1 (by decide) rest _
    have hnamed : vocabulary.named? (String.ofList (c :: rest))
        = some (.kind (String.ofList (c :: rest)) true) := by
      unfold Vocabulary.named?
      rw [if_neg (Bool.not_eq_true _ ▸ herror), if_pos (List.contains_iff_mem.mpr hknown)]
    rw [nodeTest, if_neg hword, if_neg (Bool.not_eq_true _ ▸ hmissing), hnamed]

/-- A plain name in front of a closing parenthesis is read as it stands. -/
theorem name_of_plain {c : Char} {rest : List Char} (h : rest.all continuesName = true)
    (tail : List Char) (offset : Nat) (captures : List String) (calls : List Call) :
    ∃ after, State.name ⟨c :: (rest ++ ')' :: tail), offset, captures, calls⟩
      = (String.ofList (c :: rest), ⟨')' :: tail, after, captures, calls⟩) := by
  refine ⟨offset + Text.byteLength ((c :: (rest ++ ')' :: tail)).take (c :: rest).length), ?_⟩
  rw [State.name]
  dsimp only
  rw [takeWhile_name h]
  have hdrop : (c :: (rest ++ ')' :: tail)).drop (c :: rest).length = ')' :: tail :=
    List.drop_left
  rw [State.past, hdrop]

/-- The pattern of a kind that stands somewhere. -/
def kindPattern (place : Place) (offset : Nat) (name : List Char) : Pattern :=
  .node ⟨.kind (String.ofList name) true, none, [], place.anchored, false, [],
    place.outer.getD offset⟩ []

/-- A known kind in parentheses is read as the pattern of that kind. -/
theorem pattern_kind {vocabulary : Vocabulary} {name : List Char} (h : Names vocabulary name)
    (fuel : Nat) (place : Place) (tail : List Char) (offset : Nat) (captures : List String)
    (calls : List Call) :
    ∃ after, pattern vocabulary (fuel + 3) place ⟨kindSource name tail, offset, captures, calls⟩
      = finish (.ok (kindPattern place offset name, ⟨tail, after, captures, calls⟩)) := by
  cases name with
  | nil => cases h.plain
  | cons c rest =>
    have hplain := h.plain
    rw [isPlain, Bool.and_eq_true] at hplain
    have hstarts := startsName_of_isLower hplain.1
    obtain ⟨after, hname⟩ := name_of_plain (c := c) hplain.2 tail (offset + 1) captures calls
    have hinside : (State.advance ⟨kindSource (c :: rest) tail, offset, captures, calls⟩).skip
        = ⟨c :: (rest ++ ')' :: tail), offset + 1, captures, calls⟩ :=
      skip_eq_self (blankLength_of_startsName hstarts _)
    have hskip : State.skip ⟨')' :: tail, after, captures, calls⟩
        = ⟨')' :: tail, after, captures, calls⟩ := skip_eq_self (by simp [blankLength, isBlank])
    have hmember : familyMember vocabulary (.kind (String.ofList (c :: rest)) true) (offset + 1)
        ⟨')' :: tail, after, captures, calls⟩ =
          .ok (.kind (String.ofList (c :: rest)) true, ⟨')' :: tail, after, captures, calls⟩) := rfl
    refine ⟨after + 1, ?_⟩
    have hopens : c ≠ '(' ∧ c ≠ '"' ∧ c ≠ '[' ∧ c ≠ '.' ∧ c ≠ '#' := by
      refine ⟨?_, ?_, ?_, ?_, ?_⟩ <;> rintro rfl <;> exact absurd hplain.1 (by decide)
    obtain ⟨h1, h2, h3, h4, h5⟩ := hopens
    rw [pattern]
    dsimp only
    rw [hinside]
    simp only [State.next, kindSource, List.headD_cons, h1, h2, h3, h4, h5, hstarts, hname,
      nodeTest_name h, hmember, hskip]
    rw [items_ended vocabulary fuel _ [] rfl]
    rfl

/-- The source of bare kinds to choose from, behind the opening bracket. -/
def choicesSource (tail : List Char) : List (List Char) → List Char
  | [] => ']' :: tail
  | name :: rest =>
    kindSource name ((if rest.isEmpty then [] else [' ']) ++ choicesSource tail rest)

/-- The rest of a choice starts with its closing bracket or with another kind. -/
theorem next_choicesSource (tail : List Char) (names : List (List Char)) (offset : Nat)
    (captures : List String) (calls : List Call) :
    State.next ⟨choicesSource tail names, offset, captures, calls⟩ = ']' ∨
      State.next ⟨choicesSource tail names, offset, captures, calls⟩ = '(' := by
  cases names with
  | nil => exact Or.inl rfl
  | cons name rest => exact Or.inr rfl

/-- The blank before the rest of a choice is skipped. -/
theorem skip_choices (tail : List Char) (names : List (List Char)) (offset : Nat)
    (captures : List String) (calls : List Call) :
    ∃ after, State.skip
        ⟨(if names.isEmpty then [] else [' ']) ++ choicesSource tail names, offset, captures, calls⟩
      = ⟨choicesSource tail names, after, captures, calls⟩ := by
  cases names with
  | nil => exact ⟨offset, skip_eq_self rfl⟩
  | cons name rest => exact ⟨offset + 1, rfl⟩

/-- Where no suffix stands the part stays as it is. -/
theorem suffixes_of_none {state : State} (h : state.next ∉ ['+', '*', '?', '@']) (fuel : Nat)
    (part : Pattern) : suffixes (fuel + 1) part state = .ok (part, state) := by
  simp only [List.mem_cons, List.not_mem_nil, or_false, not_or] at h
  obtain ⟨hplus, hstar, hoptional, hcapture⟩ := h
  rw [suffixes, if_neg hplus, if_neg hstar, if_neg hoptional, if_neg hcapture]

/-- An option of a choice is finished before the next one. -/
theorem finish_choices (part : Pattern) (tail : List Char) (names : List (List Char)) (offset : Nat)
    (captures : List String) (calls : List Call) :
    ∃ after, finish (.ok (part,
        ⟨(if names.isEmpty then [] else [' ']) ++ choicesSource tail names, offset, captures, calls⟩))
      = .ok (.pattern part, ⟨choicesSource tail names, after, captures, calls⟩) := by
  obtain ⟨after, hskip⟩ := skip_choices tail names offset captures calls
  refine ⟨after, ?_⟩
  have hnone : State.next ⟨choicesSource tail names, after, captures, calls⟩
      ∉ ['+', '*', '?', '@'] := by
    obtain h | h := next_choicesSource tail names after captures calls
    all_goals
      rw [h]
      decide
  rw [finish, hskip]
  dsimp only
  rw [suffixes_of_none hnone]

end PatternReader

namespace Pattern

/-- A pattern that asks for nothing but kinds. -/
inductive Bare : Pattern → Prop
  | node (spec : NodeSpec) : Bare (.node spec [])
  | choice {options : List Pattern} (h : ∀ option ∈ options, Bare option) : Bare (.choice options)

/-- Changing all options is changing each of them. -/
theorem mapAll_eq_map (change : NodeSpec → NodeSpec) (options : List Pattern) :
    mapAll change options = options.map (mapFirst change) := by
  induction options with
  | nil => rfl
  | cons first rest ih => rw [mapAll, ih, List.map_cons]

/-- A bare pattern stays so when its first nodes are changed. -/
theorem Bare.mapFirst {part : Pattern} (h : Bare part) (change : NodeSpec → NodeSpec) :
    Bare (part.mapFirst change) := by
  induction h with
  | node spec => exact .node (change spec)
  | choice _ ih =>
    refine .choice fun option hoption => ?_
    rw [mapAll_eq_map] at hoption
    obtain ⟨former, hformer, rfl⟩ := List.mem_map.mp hoption
    exact ih former hformer

/-- No grammar makes such a pattern impossible. -/
theorem Bare.fault?_eq_none {part : Pattern} (h : Bare part) (grammar : Grammar) :
    Possible.fault? grammar part = none := by
  induction h with
  | node spec => rfl
  | @choice options _ ih =>
    rw [Possible.fault?]
    clear * - ih
    induction options with
    | nil => rfl
    | cons first rest ihRest =>
      rw [Possible.faultAny?, ih first List.mem_cons_self]
      exact ihRest fun option hoption => ih option (List.mem_cons_of_mem first hoption)

end Pattern

namespace PatternReader

open Pattern (Bare)

/-- A choice of known kinds is read as a bare pattern. -/
theorem options_choices {vocabulary : Vocabulary} (names : List (List Char))
    (hnames : ∀ name ∈ names, Names vocabulary name) (fuel : Nat) (place : Place) (anchored : Bool)
    (done : List Pattern) (hdone : ∀ option ∈ done, Bare option) (hsome : done ≠ [] ∨ names ≠ [])
    (tail : List Char) (offset : Nat) (captures : List String) (calls : List Call) :
    ∃ part after, options vocabulary (names.length + fuel + 4) place anchored done
        ⟨choicesSource tail names, offset, captures, calls⟩
      = .ok (part, ⟨tail, after, captures, calls⟩) ∧ Bare part := by
  induction names generalizing place done offset with
  | nil =>
    have hended : pattern vocabulary (0 + fuel + 3) place
        ⟨choicesSource tail [], offset, captures, calls⟩ = _ :=
      pattern_ended vocabulary (0 + fuel + 2) place (Or.inr rfl)
    refine ⟨.choice done, offset + 1, ?_, .choice hdone⟩
    rw [List.length_nil, options, hended]
    dsimp only
    rw [if_pos ⟨rfl, hsome.resolve_right (not_not.mpr rfl)⟩]
    rfl
  | cons name rest ih =>
    obtain ⟨behind, hkind⟩ := pattern_kind (hnames name List.mem_cons_self)
      (rest.length + fuel + 1) place ((if rest.isEmpty then [] else [' ']) ++ choicesSource tail rest)
      offset captures calls
    obtain ⟨next, hfinish⟩ :=
      finish_choices (kindPattern place offset name) tail rest behind captures calls
    have hmore : ∀ option ∈ done ++ [kindPattern place offset name], Bare option := by
      intro option hoption
      obtain hoption | hoption := List.mem_append.mp hoption
      · exact hdone option hoption
      · rw [List.mem_singleton.mp hoption]
        exact .node _
    have hfuel : (name :: rest).length + fuel + 4 = (rest.length + fuel + 4) + 1 := by
      rw [List.length_cons]
      omega
    obtain ⟨part, after, hrest, hbare⟩ := ih
      (fun other hother => hnames other (List.mem_cons_of_mem name hother)) ⟨none, anchored⟩
      (done ++ [kindPattern place offset name]) hmore (Or.inl (by simp)) next
    refine ⟨part, after, ?_, hbare⟩
    rw [hfuel, options, choicesSource, hkind, hfinish]
    exact hrest

/-- A rule's own capture behind a pattern is the first one. -/
theorem finish_rule (part : Pattern) (offset : Nat) (calls : List Call) :
    ∃ after change, finish (.ok (part, ⟨" @rule".toList, offset, [], calls⟩))
      = .ok (.pattern (part.mapFirst change), ⟨[], after, [ruleCapture], calls⟩) :=
  ⟨_, _, rfl⟩

/-- The source of a choice of bare kinds. -/
def choiceSource (names : List (List Char)) (tail : List Char) : List Char :=
  '[' :: choicesSource tail names

/-- A source that is one pattern is read as one. -/
theorem tops_of_pattern {vocabulary : Vocabulary} {source : List Char} {part : Pattern} {after : Nat}
    {captures : List String}
    (h : pattern vocabulary (2 * source.length + 4) ⟨none, false⟩ ⟨source, 0, [], []⟩
      = .ok (.pattern part, ⟨[], after, captures, []⟩))
    (hskip : blankLength false source = 0) (hsource : source ≠ []) :
    read vocabulary source = .ok ([⟨part, [], 0⟩], captures) := by
  obtain ⟨count, hcount⟩ :=
    Nat.exists_eq_succ_of_ne_zero (mt List.length_eq_zero_iff.mp hsource)
  rw [read, skip_eq_self hskip, tops, if_neg hsource]
  dsimp only
  rw [h]
  dsimp only
  rw [hcount, tops, if_pos rfl]
  rfl

/-- A known kind in parentheses with the mark behind it is read as a bare pattern. -/
theorem read_kind {vocabulary : Vocabulary} {name : List Char} (h : Names vocabulary name) :
    ∃ part, read vocabulary (kindSource name " @rule".toList) = .ok ([⟨part, [], 0⟩], [ruleCapture])
      ∧ Bare part := by
  obtain ⟨behind, hkind⟩ := pattern_kind h (2 * (kindSource name " @rule".toList).length + 1)
    ⟨none, false⟩ " @rule".toList 0 [] []
  obtain ⟨after, change, hfinish⟩ := finish_rule (kindPattern ⟨none, false⟩ 0 name) behind []
  exact ⟨_, tops_of_pattern (hkind.trans hfinish) rfl nofun, (Bare.node _).mapFirst change⟩

/-- No blank stands before the rest of a choice. -/
theorem blankLength_choicesSource (tail : List Char) (names : List (List Char)) :
    blankLength false (choicesSource tail names) = 0 := by
  cases names <;> rfl

/-- The rest of a choice is longer than it has kinds. -/
theorem length_lt_choicesSource (tail : List Char) (names : List (List Char)) :
    names.length < (choicesSource tail names).length := by
  induction names with
  | nil => simp [choicesSource]
  | cons name rest ih =>
    simp only [choicesSource, kindSource, List.length_cons, List.length_append]
    omega

/-- A choice of known kinds with the mark behind it is read as a bare pattern. -/
theorem read_choice {vocabulary : Vocabulary} {names : List (List Char)} (hsome : names ≠ [])
    (hnames : ∀ name ∈ names, Names vocabulary name) :
    ∃ part, read vocabulary (choiceSource names " @rule".toList)
        = .ok ([⟨part, [], 0⟩], [ruleCapture]) ∧ Bare part := by
  let source := choiceSource names " @rule".toList
  have hlength := length_lt_choicesSource " @rule".toList names
  obtain ⟨fuel, hfuel⟩ : ∃ fuel, 2 * source.length + 4 = (names.length + fuel + 4) + 1 := by
    refine ⟨2 * source.length - names.length - 1, ?_⟩
    simp only [source, choiceSource, List.length_cons]
    omega
  obtain ⟨part, behind, hoptions, hbare⟩ := options_choices names hnames fuel ⟨some 0, false⟩ false []
    nofun (Or.inr hsome) " @rule".toList 1 [] []
  obtain ⟨after, change, hfinish⟩ := finish_rule part behind []
  have hinside : (State.advance ⟨source, 0, [], []⟩).skip
      = ⟨choicesSource " @rule".toList names, 1, [], []⟩ :=
    skip_eq_self (blankLength_choicesSource _ names)
  have hpattern : pattern vocabulary (2 * source.length + 4) ⟨none, false⟩ ⟨source, 0, [], []⟩
      = .ok (.pattern (part.mapFirst change), ⟨[], after, [ruleCapture], []⟩) := by
    rw [hfuel, pattern]
    dsimp only
    rw [hinside]
    show finish (options vocabulary (names.length + fuel + 4) ⟨some 0, false⟩ false [] _) = _
    rw [hoptions, hfinish]
  exact ⟨_, tops_of_pattern hpattern rfl nofun, hbare.mapFirst change⟩

end PatternReader

open PatternReader

/-- A pattern that is read as a bare one compiles. -/
theorem compilePattern_of_read {language : Language} {pattern : String} {part : Pattern}
    (hread : read language.vocabulary (ruleSource pattern) = .ok ([⟨part, [], 0⟩], [ruleCapture]))
    (hbare : part.Bare) : ∃ compiled, compilePattern language pattern = .ok compiled := by
  have hquery : Query.compile language (ruleSource pattern) = .ok ⟨[⟨part, []⟩], [ruleCapture]⟩ := by
    rw [Query.compile, hread]
    simp only [List.findSome?_cons, List.findSome?_nil, hbare.fault?_eq_none]
    rfl
  refine ⟨⟨⟨[⟨part, []⟩], [ruleCapture]⟩, 0⟩, ?_⟩
  rw [compilePattern, hquery]
  rfl

/-- A kind that a language knows compiles. -/
theorem compilePattern_kind {language : Language} {pattern : String} {name : List Char}
    (h : Names language.vocabulary name)
    (hsource : ruleSource pattern = kindSource name " @rule".toList) :
    ∃ compiled, compilePattern language pattern = .ok compiled := by
  obtain ⟨part, hread, hbare⟩ := read_kind h
  exact compilePattern_of_read (hsource ▸ hread) hbare

/-- A choice of kinds that a language knows compiles. -/
theorem compilePattern_choice {language : Language} {pattern : String} {names : List (List Char)}
    (hsome : names ≠ []) (hnames : ∀ name ∈ names, Names language.vocabulary name)
    (hsource : ruleSource pattern = choiceSource names " @rule".toList) :
    ∃ compiled, compilePattern language pattern = .ok compiled := by
  obtain ⟨part, hread, hbare⟩ := read_choice hsome hnames
  exact compilePattern_of_read (hsource ▸ hread) hbare

end Dimming
