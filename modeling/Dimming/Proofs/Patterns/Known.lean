import Dimming.Proofs.Patterns.Branches

/-!
# Known captures

The captures of a pattern are numbers of known capture names. Readers only add to the names, and they
give a pattern the number of a name that is known by then. The argument is an induction on the fuel of
the readers, with one step for each of them.
-/

set_option autoImplicit false

namespace Dimming

namespace Pattern

/-- All captures of a pattern have numbers below a limit. -/
inductive Below (limit : Nat) : Pattern → Prop
  | node {spec : NodeSpec} {items : List Pattern} (hspec : ∀ capture ∈ spec.captures, capture < limit)
      (hitems : ∀ item ∈ items, Below limit item) : Below limit (.node spec items)
  | group {items : List Pattern} (h : ∀ item ∈ items, Below limit item) : Below limit (.group items)
  | choice {options : List Pattern} (h : ∀ option ∈ options, Below limit option) :
    Below limit (.choice options)
  | repeated {part : Pattern} {once : Bool} (h : Below limit part) : Below limit (.repeated part once)
  | optional {part : Pattern} (h : Below limit part) : Below limit (.optional part)

/-- Numbers below a limit are below every greater one. -/
theorem Below.mono {limit more : Nat} {pattern : Pattern} (h : Below limit pattern)
    (hle : limit ≤ more) : Below more pattern := by
  induction h with
  | node hspec _ ih =>
    exact .node (fun capture hcapture => Nat.lt_of_lt_of_le (hspec capture hcapture) hle) ih
  | group _ ih => exact .group ih
  | choice _ ih => exact .choice ih
  | repeated _ ih => exact .repeated ih
  | optional _ ih => exact .optional ih

/-- Where the first nodes of items are changed, each item is as it was or has its first nodes changed. -/
theorem mem_mapHead {change : NodeSpec → NodeSpec} {items : List Pattern} {part : Pattern}
    (h : part ∈ mapHead change items) : ∃ item ∈ items, part = item ∨ part = item.mapFirst change := by
  induction items with
  | nil => cases h
  | cons first rest ih =>
    rw [mapHead] at h
    obtain rfl | h := List.mem_cons.mp h
    · exact ⟨first, List.mem_cons_self, Or.inr rfl⟩
    · split at h
      · obtain ⟨item, hitem, heq⟩ := ih h
        exact ⟨item, List.mem_cons_of_mem first hitem, heq⟩
      · exact ⟨part, List.mem_cons_of_mem first h, Or.inl rfl⟩

/-- A change of the first nodes keeps the numbers below a limit, if it does so at each node. -/
theorem Below.mapFirst {limit : Nat} {change : NodeSpec → NodeSpec} {pattern : Pattern}
    (h : Below limit pattern)
    (hchange : ∀ spec : NodeSpec, (∀ capture ∈ spec.captures, capture < limit) →
      ∀ capture ∈ (change spec).captures, capture < limit) :
    Below limit (pattern.mapFirst change) := by
  induction h with
  | node hspec hitems _ => exact .node (hchange _ hspec) hitems
  | group hitems ih =>
    refine .group fun part hpart => ?_
    obtain ⟨item, hitem, rfl | rfl⟩ := mem_mapHead hpart
    · exact hitems part hitem
    · exact ih item hitem
  | choice _ ih =>
    refine .choice fun part hpart => ?_
    rw [mapAll_eq_map] at hpart
    obtain ⟨option, hoption, rfl⟩ := List.mem_map.mp hpart
    exact ih option hoption
  | repeated _ ih => exact .repeated ih
  | optional _ ih => exact .optional ih

/-- A capture that is added keeps the numbers below a limit, if its own number is. -/
theorem Below.addCapture {limit capture : Nat} {pattern : Pattern} (h : Below limit pattern)
    (hcapture : capture < limit) : Below limit (pattern.mapFirst (NodeSpec.addCapture capture)) := by
  refine h.mapFirst fun spec hspec other hother => ?_
  rw [NodeSpec.addCapture] at hother
  split at hother
  · obtain hother | hother := List.mem_append.mp hother
    · exact hspec other hother
    · rwa [List.mem_singleton.mp hother]
  · exact hspec other hother

end Pattern

namespace PatternReader

open Pattern (Below)

variable {vocabulary : Vocabulary} {fuel : Nat} {state after : State}

/-! ## Words know no new captures -/

/-- Reading a quoted text names no capture. -/
theorem captures_string {value : String} (h : state.string = .ok (value, after)) :
    after.captures = state.captures := by
  rw [State.string] at h
  split at h
  · cases h
  · cases h
    rfl

/-- Reading an argument names no capture. -/
theorem captures_argument {one : Argument} (h : argument state = .ok (one, after)) :
    after.captures = state.captures := by
  rw [argument] at h
  split at h
  · split at h
    · split at h
      · cases h
      · cases h
        exact (captures_name _).trans (captures_advance state)
    · cases h
  split at h
  · split at h
    · cases h
    · rename_i hstring
      cases h
      exact captures_string hstring
  split at h
  · cases h
    exact captures_name state
  · cases h

/-- Reading arguments names no capture. -/
theorem captures_arguments {done found : List Argument}
    (h : arguments fuel done state = .ok (found, after)) : after.captures = state.captures := by
  induction fuel generalizing done state with
  | zero => cases h
  | succ fuel ih =>
    rw [arguments_succ] at h
    split at h
    · cases h
      exact captures_advance state
    split at h
    · cases h
    · rename_i hone
      have hkept := captures_argument hone
      exact (ih h).trans hkept

/-- Reading a call names no capture. -/
theorem captures_call (h : call state = .ok ((), after)) : after.captures = state.captures := by
  rw [call] at h
  dsimp only at h
  split at h
  · split at h
    · split at h
      · cases h
      · rename_i harguments
        cases h
        exact (captures_arguments harguments).trans ((captures_advance _).trans (captures_name state))
    · cases h
  · cases h

/-- Reading what a node is tested for names no capture. -/
theorem captures_nodeTest {word : String} {start : Nat} {test : NodeTest}
    (h : nodeTest vocabulary word start state = .ok (test, after)) :
    after.captures = state.captures := by
  rw [nodeTest] at h
  dsimp only at h
  split at h
  · cases h
    rfl
  split at h
  · split at h
    · split at h
      all_goals
        cases h
        try exact captures_name _
    split at h
    · split at h
      · cases h
      · rename_i hstring
        have hkept := captures_string hstring
        split at h
        · cases h
          exact hkept
        · cases h
    split at h
    · cases h
      rfl
    · cases h
  · split at h
    · cases h
      rfl
    · cases h

/-- Reading a member of a family names no capture. -/
theorem captures_familyMember {kind test : NodeTest} {start : Nat}
    (h : familyMember vocabulary kind start state = .ok (test, after)) :
    after.captures = state.captures := by
  unfold familyMember at h
  dsimp only at h
  split at h
  · cases h
    rfl
  split at h
  · split at h
    · split at h
      all_goals
        cases h
        try exact (captures_name _).trans (captures_advance state)
    split at h
    · split at h
      · cases h
      · rename_i hstring
        split at h
        · cases h
          exact (captures_string hstring).trans (captures_advance state)
        · cases h
    · cases h
  · cases h

/-- Reading an anchor names no capture. -/
theorem captures_anchor (state : State) (anchored : Bool) : (anchor state anchored).2.captures = state.captures := by
  rw [anchor]
  split
  · exact captures_advance state
  · rfl

/-! ## Patterns use known captures -/

/-- A reader only adds captures, and a pattern that it reads uses known ones. -/
structure Adds (before : State) (result : Result Pattern) : Prop where
  of_ok {part : Pattern} {after : State} (h : result = .ok (part, after)) :
    before.captures.length ≤ after.captures.length ∧ part.Below after.captures.length

/-- Nothing is to be shown of a part that cannot be read. -/
theorem Adds.of_error {before : State} {result : Result Pattern} {fault : PatternFault}
    (h : result = .error fault) : Adds before result := by
  refine ⟨fun hok => ?_⟩
  rw [h] at hok
  cases hok

/-- What is read later is read after names that were there before. -/
theorem Adds.of_le {before next : State} {result : Result Pattern} (h : Adds next result)
    (hle : before.captures.length ≤ next.captures.length) : Adds before result := by
  refine ⟨fun hok => ?_⟩
  obtain ⟨hmore, hbelow⟩ := h.of_ok hok
  exact ⟨Nat.le_trans hle hmore, hbelow⟩

/-- The same of a reader that may find no pattern. -/
structure AddsPiece (before : State) (result : Result Piece) : Prop where
  of_ok {piece : Piece} {after : State} (h : result = .ok (piece, after)) :
    before.captures.length ≤ after.captures.length
      ∧ ∀ part, piece = .pattern part → part.Below after.captures.length

/-- Nothing is to be shown of a piece that cannot be read. -/
theorem AddsPiece.of_error {before : State} {result : Result Piece} {fault : PatternFault}
    (h : result = .error fault) : AddsPiece before result := by
  refine ⟨fun hok => ?_⟩
  rw [h] at hok
  cases hok

/-- What is read later is read after names that were there before. -/
theorem AddsPiece.of_le {before next : State} {result : Result Piece} (h : AddsPiece next result)
    (hle : before.captures.length ≤ next.captures.length) : AddsPiece before result := by
  refine ⟨fun hok => ?_⟩
  obtain ⟨hmore, hbelow⟩ := h.of_ok hok
  exact ⟨Nat.le_trans hle hmore, hbelow⟩

/-- The number of a name is one of the names. -/
theorem numberIn_lt (captures : List String) (name : String) :
    numberIn captures name < (withName captures name).length :=
  (List.findIdx?_eq_some_iff_findIdx_eq.mp (findIdx?_withName captures name)).1

/-- A name that is added leaves as many names or one more. -/
theorem length_le_withName (captures : List String) (name : String) :
    captures.length ≤ (withName captures name).length := by
  rw [withName]
  split
  · exact Nat.le_refl _
  · rw [List.length_append]
    exact Nat.le_add_right _ _

/-- A repetition has the numbers of the pattern that is repeated. -/
theorem below_times {part : Pattern} {limit : Nat} (h : part.Below limit) {c : Char}
    {times : Pattern → Pattern} (htimes : timesMark c = some times) : (times part).Below limit := by
  obtain ⟨-, rfl⟩ | ⟨-, rfl⟩ | ⟨-, rfl⟩ := timesMark_cases htimes
  · exact .repeated h
  · exact .repeated h
  · exact .optional h

/-- Suffixes add names, and their numbers. -/
theorem adds_suffixes (fuel : Nat) {part : Pattern} {state : State}
    (h : part.Below state.captures.length) : Adds state (suffixes fuel part state) := by
  induction fuel generalizing part state with
  | zero => exact Adds.of_error rfl
  | succ fuel ih =>
    have hadvance := captures_advance state
    cases htimes : timesMark state.next with
    | some times =>
      have hkept : state.advance.skip.captures = state.captures := hadvance
      rw [suffixes_times htimes]
      exact (ih (hkept ▸ below_times h htimes)).of_le (Nat.le_of_eq (congrArg List.length hkept.symm))
    | none =>
      by_cases hcapture : state.next = '@'
      · rw [suffixes_capture hcapture]
        split
        · have hkept : state.advance.name.2.skip.captures = state.captures :=
            (captures_name _).trans hadvance
          rw [hkept]
          have hmore := length_le_withName state.captures state.advance.name.1
          exact (ih ((h.mono hmore).addCapture (numberIn_lt _ _))).of_le hmore
        · exact .of_error rfl
      · rw [suffixes_unmarked htimes hcapture]
        refine ⟨fun hok => ?_⟩
        cases hok
        exact ⟨Nat.le_refl _, h⟩

/-- Finishing a part adds names, and their numbers. -/
theorem Adds.finish {before : State} {result : Result Pattern} (h : Adds before result) :
    AddsPiece before (finish result) := by
  cases result with
  | error fault => exact .of_error rfl
  | ok read =>
    obtain ⟨part, next⟩ := read
    obtain ⟨hmore, hbelow⟩ := h.of_ok rfl
    have hsuffixes : Adds next.skip (suffixes (next.rest.length + 1) part next.skip) :=
      adds_suffixes _ hbelow
    refine ⟨fun hok => ?_⟩
    rw [PatternReader.finish] at hok
    split at hok
    · cases hok
    · rename_i hread
      cases hok
      obtain ⟨hlast, hpart⟩ := hsuffixes.of_ok hread
      refine ⟨Nat.le_trans hmore hlast, fun whole heq => ?_⟩
      cases heq
      exact hpart

/-- With some fuel the readers of patterns add captures only. -/
structure ReadersAdd (vocabulary : Vocabulary) (fuel : Nat) : Prop where
  pattern (place : Place) (state : State) : AddsPiece state (pattern vocabulary fuel place state)
  options (place : Place) (anchored : Bool) {done : List Pattern} {state : State}
    (hdone : ∀ option ∈ done, option.Below state.captures.length) :
    Adds state (options vocabulary fuel place anchored done state)
  row (outer : Option Nat) (anchored : Bool) {done : List Pattern} {state : State}
    (hdone : ∀ part ∈ done, part.Below state.captures.length) :
    Adds state (row vocabulary fuel outer anchored done state)
  items {spec : NodeSpec} (hspec : spec.captures = []) (anchored : Bool) {done : List Pattern}
    {state : State} (hdone : ∀ part ∈ done, part.Below state.captures.length) :
    Adds state (items vocabulary fuel spec anchored done state)

/-- A pattern that is read after others keeps the numbers below the limit of then. -/
theorem below_concat {limit more : Nat} {done : List Pattern} {part : Pattern}
    (hdone : ∀ other ∈ done, other.Below limit) (hle : limit ≤ more) (hpart : part.Below more) :
    ∀ other ∈ done ++ [part], other.Below more := by
  intro other hother
  obtain hother | hother := List.mem_append.mp hother
  · exact (hdone other hother).mono hle
  · rwa [List.mem_singleton.mp hother]

/-- The options of a choice have numbers of names that were read, if pieces and the options behind them do. -/
theorem ReadersAdd.options_succ (ih : ReadersAdd vocabulary fuel) (place : Place) (anchored : Bool)
    {done : List Pattern} (hdone : ∀ option ∈ done, option.Below state.captures.length) :
    Adds state (PatternReader.options vocabulary (fuel + 1) place anchored done state) := by
  have hpiece := ih.pattern place state
  rw [PatternReader.options]
  split
  · exact .of_error rfl
  · rename_i next hread
    obtain ⟨hmore, -⟩ := hpiece.of_ok hread
    split
    · refine ⟨fun hok => ?_⟩
      cases hok
      rw [captures_advance]
      exact ⟨hmore, .choice fun option hoption => (hdone option hoption).mono hmore⟩
    · exact .of_error rfl
  · rename_i next hread
    obtain ⟨hmore, -⟩ := hpiece.of_ok hread
    exact (ih.options _ _ (below_concat hdone hmore (.group (List.forall_mem_nil _)))).of_le hmore
  · rename_i option next hread
    obtain ⟨hmore, hbelow⟩ := hpiece.of_ok hread
    exact (ih.options _ _ (below_concat hdone hmore (hbelow option rfl))).of_le hmore

/-- The patterns of a row have numbers of names that were read, if pieces and the patterns behind them do. -/
theorem ReadersAdd.row_succ (ih : ReadersAdd vocabulary fuel) (outer : Option Nat) (anchored : Bool)
    {done : List Pattern} (hdone : ∀ part ∈ done, part.Below state.captures.length) :
    Adds state (PatternReader.row vocabulary (fuel + 1) outer anchored done state) := by
  have hanchor := captures_anchor state anchored
  rw [PatternReader.row]
  dsimp only
  generalize anchor state anchored = stop at hanchor
  have hpiece := ih.pattern ⟨outer, stop.1⟩ stop.2
  rw [← hanchor] at hdone
  suffices hadds : Adds stop.2 _ from hadds.of_le (Nat.le_of_eq (congrArg List.length hanchor.symm))
  split
  · exact .of_error rfl
  · rename_i next hread
    obtain ⟨hmore, -⟩ := hpiece.of_ok hread
    split
    · refine ⟨fun hok => ?_⟩
      cases hok
      rw [captures_advance]
      exact ⟨hmore, .group fun part hpart => (hdone part hpart).mono hmore⟩
    · exact .of_error rfl
  · rename_i next hread
    obtain ⟨hmore, -⟩ := hpiece.of_ok hread
    exact (ih.row _ _ fun part hpart => (hdone part hpart).mono hmore).of_le hmore
  · rename_i part next hread
    obtain ⟨hmore, hbelow⟩ := hpiece.of_ok hread
    exact (ih.row _ _ (below_concat hdone hmore (hbelow part rfl))).of_le hmore

/-- A node is read without captures of its own; they come with the marks behind it. -/
theorem below_node {limit : Nat} {spec : NodeSpec} (hspec : spec.captures = []) {done : List Pattern}
    (hdone : ∀ part ∈ done, part.Below limit) : Below limit (.node spec done) := by
  refine .node (fun capture hcapture => ?_) hdone
  rw [hspec] at hcapture
  cases hcapture

/-- The items of a node have numbers of names that were read, if pieces and the items behind them do. -/
theorem ReadersAdd.items_succ (ih : ReadersAdd vocabulary fuel) {spec : NodeSpec}
    (hspec : spec.captures = []) (anchored : Bool) {done : List Pattern}
    (hdone : ∀ part ∈ done, part.Below state.captures.length) :
    Adds state (PatternReader.items vocabulary (fuel + 1) spec anchored done state) := by
  rw [PatternReader.items]
  split
  · dsimp only
    split
    · split
      · have hkept : state.advance.skip.name.2.skip.captures = state.captures :=
          (captures_name _).trans (captures_advance state)
        exact (ih.items (by exact hspec) anchored (hkept ▸ hdone)).of_le
          (Nat.le_of_eq (congrArg List.length hkept.symm))
      · exact .of_error rfl
    · exact .of_error rfl
  have hanchor := captures_anchor state anchored
  dsimp only
  generalize anchor state anchored = stop at hanchor
  have hpiece := ih.pattern ⟨none, stop.1⟩ stop.2
  rw [← hanchor] at hdone
  suffices hadds : Adds stop.2 _ from hadds.of_le (Nat.le_of_eq (congrArg List.length hanchor.symm))
  split
  · exact .of_error rfl
  · rename_i next hread
    obtain ⟨hmore, -⟩ := hpiece.of_ok hread
    have hkept (part : Pattern) (hpart : part ∈ done) := (hdone part hpart).mono hmore
    split
    · exact .of_error rfl
    split
    · split
      · exact .of_error rfl
      · rename_i final hfinal
        refine ⟨fun hok => ?_⟩
        cases hok
        rw [captures_advance]
        refine ⟨hmore, below_node hspec (below_concat ?_ (Nat.le_refl _) ?_)⟩
        · exact fun part hpart => hkept part (List.dropLast_subset done hpart)
        · exact (hkept final (List.mem_of_getLast? hfinal)).mapFirst fun _ h => h
    · refine ⟨fun hok => ?_⟩
      cases hok
      rw [captures_advance]
      exact ⟨hmore, below_node hspec hkept⟩
  · rename_i next hread
    obtain ⟨hmore, -⟩ := hpiece.of_ok hread
    exact (ih.items hspec _ fun part hpart => (hdone part hpart).mono hmore).of_le hmore
  · rename_i part next hread
    obtain ⟨hmore, hbelow⟩ := hpiece.of_ok hread
    exact (ih.items hspec _ (below_concat hdone hmore (hbelow part rfl))).of_le hmore

/-- A field is given to a pattern that is read with its marks. -/
theorem ReadersAdd.field (ih : ReadersAdd vocabulary fuel) {place : Place}
    (hstarts : startsName state.next = true) (hany : state.next ≠ '_') :
    AddsPiece state (PatternReader.pattern vocabulary (fuel + 1) place state) := by
  have hkept : state.name.2.skip.advance.skip.captures = state.captures :=
    (captures_advance _).trans (captures_name state)
  have hpiece : AddsPiece state (PatternReader.pattern vocabulary fuel
      ⟨some (place.outer.getD state.offset), place.anchored⟩ state.name.2.skip.advance.skip) :=
    (ih.pattern _ _).of_le (Nat.le_of_eq (congrArg List.length hkept.symm))
  rw [pattern_field hstarts hany]
  split
  · exact .of_error rfl
  split
  · exact .of_error rfl
  · exact .of_error rfl
  · rename_i next hread
    refine ⟨fun hok => ?_⟩
    cases hok
    exact ⟨(hpiece.of_ok hread).1, nofun⟩
  · rename_i part next hread
    obtain ⟨hmore, hbelow⟩ := hpiece.of_ok hread
    split
    · refine Adds.finish ⟨fun hok => ?_⟩
      cases hok
      exact ⟨hmore, (hbelow part rfl).mapFirst fun _ h => h⟩
    · exact .of_error rfl

/-- A pattern in parentheses has numbers of names that were read, if what stands inside it does. -/
theorem ReadersAdd.opened (ih : ReadersAdd vocabulary fuel) {place : Place}
    (hopens : state.next = '(') :
    AddsPiece state (PatternReader.pattern vocabulary (fuel + 1) place state) := by
  have hkept : state.advance.skip.captures = state.captures := captures_advance state
  have hle := Nat.le_of_eq (congrArg List.length hkept.symm)
  by_cases hrow : state.advance.skip.next = '(' ∨ state.advance.skip.next = '"'
      ∨ state.advance.skip.next = '['
  · rw [pattern_row hopens hrow]
    exact ((ih.row _ _ (List.forall_mem_nil _)).of_le hle).finish
  by_cases hcall : state.advance.skip.next = '.' ∨ state.advance.skip.next = '#'
  · rw [pattern_call hopens hcall]
    refine ⟨fun hok => ?_⟩
    split at hok
    · cases hok
    · rename_i next hread
      cases hok
      have hcaptures := (captures_call hread).trans ((captures_advance _).trans hkept)
      exact ⟨Nat.le_of_eq (congrArg List.length hcaptures.symm), nofun⟩
  by_cases hname : startsName state.advance.skip.next = true
  · rw [pattern_node hopens hname]
    split
    · exact .of_error rfl
    rename_i htest
    split
    · exact .of_error rfl
    rename_i next hmember
    have hcaptures : next.skip.captures = state.captures :=
      (captures_familyMember hmember).trans ((captures_nodeTest htest).trans
        ((captures_name _).trans hkept))
    exact ((ih.items rfl false (List.forall_mem_nil _)).of_le
      (Nat.le_of_eq (congrArg List.length hcaptures.symm))).finish
  · rw [pattern_other hopens hrow hcall hname]
    exact .of_error rfl

/-- A pattern has numbers of names that were read, if what stands inside it does. -/
theorem ReadersAdd.pattern_succ (ih : ReadersAdd vocabulary fuel) (place : Place) (state : State) :
    AddsPiece state (PatternReader.pattern vocabulary (fuel + 1) place state) := by
  by_cases hclosing : state.next = ')' ∨ state.next = ']'
  · rw [pattern_ended vocabulary fuel place hclosing]
    refine ⟨fun hok => ?_⟩
    cases hok
    exact ⟨Nat.le_refl _, nofun⟩
  by_cases hchoice : state.next = '['
  · have hkept : state.advance.skip.captures = state.captures := captures_advance state
    rw [pattern_choice hchoice]
    exact ((ih.options _ _ (List.forall_mem_nil _)).of_le
      (Nat.le_of_eq (congrArg List.length hkept.symm))).finish
  by_cases hopens : state.next = '('
  · exact ih.opened hopens
  by_cases hany : state.next = '_'
  · rw [pattern_any hany]
    refine Adds.finish ⟨fun hok => ?_⟩
    cases hok
    have hkept : state.advance.skip.captures = state.captures := captures_advance state
    exact ⟨Nat.le_of_eq (congrArg List.length hkept.symm), below_node rfl (List.forall_mem_nil _)⟩
  by_cases hquote : state.next = '"'
  · rw [pattern_token hquote]
    split
    · exact .of_error rfl
    rename_i hstring
    have hkept := captures_string hstring
    split
    · exact .of_error rfl
    · refine Adds.finish ⟨fun hok => ?_⟩
      cases hok
      exact ⟨Nat.le_of_eq (congrArg List.length hkept.symm), below_node rfl (List.forall_mem_nil _)⟩
  by_cases hname : startsName state.next = true
  · exact ih.field hname hany
  · exact .of_error (pattern_unreadable hclosing hchoice hopens hany hquote hname)

/-- Without fuel nothing is read. -/
theorem ReadersAdd.zero (vocabulary : Vocabulary) : ReadersAdd vocabulary 0 where
  pattern place _ := .of_error (pattern_zero place)
  options place anchored _ _ _ := .of_error (options_zero place anchored _)
  row outer anchored _ _ _ := .of_error (row_zero outer anchored _)
  items {spec} _ anchored _ _ _ := .of_error (items_zero spec anchored _)

/-- All that is read has numbers of names that were read. -/
theorem readersAdd (vocabulary : Vocabulary) (fuel : Nat) : ReadersAdd vocabulary fuel := by
  induction fuel with
  | zero => exact .zero vocabulary
  | succ fuel ih =>
    exact
      { pattern := ih.pattern_succ
        options := fun place anchored _ _ hdone => ih.options_succ place anchored hdone
        row := fun outer anchored _ _ hdone => ih.row_succ outer anchored hdone
        items := fun hspec anchored _ _ hdone => ih.items_succ hspec anchored hdone }

/-- All patterns of a source have numbers of names that were read. -/
theorem below_tops {done found : List Top} (h : tops vocabulary fuel done state = .ok (found, after))
    (hdone : ∀ top ∈ done, top.pattern.Below state.captures.length) :
    ∀ top ∈ found, top.pattern.Below after.captures.length := by
  induction fuel generalizing done state with
  | zero => cases h
  | succ fuel ih =>
    rw [tops] at h
    split at h
    · cases h
      exact hdone
    -- a pattern is added to those read
    have adds {next : State} {part : Pattern} {calls : List Call} {offset : Nat}
        (hmore : state.captures.length ≤ next.captures.length)
        (hpart : part.Below next.captures.length) :
        ∀ top ∈ done ++ [⟨part, calls, offset⟩], top.pattern.Below next.captures.length := by
      intro top htop
      obtain htop | htop := List.mem_append.mp htop
      · exact (hdone top htop).mono hmore
      · rwa [List.mem_singleton.mp htop]
    have hpiece := (readersAdd vocabulary (2 * state.rest.length + 4)).pattern ⟨none, false⟩
      { state with calls := [] }
    dsimp only at h
    split at h
    · cases h
    · cases h
    · rename_i next hread
      exact ih h (adds (hpiece.of_ok hread).1 (.group (List.forall_mem_nil _)))
    · rename_i part next hread
      obtain ⟨hmore, hbelow⟩ := hpiece.of_ok hread
      exact ih h (adds hmore (hbelow part rfl))

/-- The patterns of a source use the captures that the source names. -/
theorem below_of_read {source : List Char} {found : List Top} {names : List String}
    (h : read vocabulary source = .ok (found, names)) :
    ∀ top ∈ found, top.pattern.Below names.length := by
  rw [read] at h
  split at h
  · cases h
  · rename_i htops
    cases h
    exact below_tops htops (List.forall_mem_nil _)

end PatternReader

end Dimming
