import Dimming.Proofs.Patterns.Branches
import Dimming.Proofs.Patterns.First
import Dimming.Proofs.Patterns.Words

/-!
# A capture behind a text

A rule is compiled from a text with a capture behind it. When such a source holds one pattern, so does
the text alone, and it is the same pattern: either the capture names what the pattern matches first, or
the text ends in a comment that has swallowed the capture. The readers of patterns call one another; the
argument is an induction on their fuel, with one step for each of them.
-/

set_option autoImplicit false

namespace Dimming

namespace PatternReader

variable {final : Scan} {long short : State}

/-! ## The marks behind a pattern -/

/-- A pattern read with the mark behind its text, and the pattern of the text alone. -/
inductive Finished (final : Scan) (whole own : Pattern) (long short : State) : Prop
  /-- The text goes on behind the pattern. -/
  | inside (h : Beside final long short) (hsome : short.rest ≠ []) (heq : whole = own)
  /-- The text ends with the pattern, which gets the capture. -/
  | captured (hlong : long.rest = []) (hshort : short.rest = [])
      (hcaptures : long.captures = withName short.captures ruleCapture)
      (hcalls : long.calls = short.calls) (hscan : final = .plain)
      (hwhole : whole = own.mapFirst
        (NodeSpec.addCapture (numberIn short.captures ruleCapture)))
  /-- The text ends in a comment behind the pattern. -/
  | passed (hlong : long.rest = []) (hshort : short.rest = [])
      (hcaptures : long.captures = short.captures) (hcalls : long.calls = short.calls)
      (hscan : final = .comment) (heq : whole = own)

/-- Where the mark alone is left, it is read as a capture of the part before it. -/
theorem suffixes_of_due {state after : State} (h : state.rest = "@rule".toList) {fuel : Nat}
    {part whole : Pattern} (hread : suffixes fuel part state = .ok (whole, after)) :
    after.rest = [] ∧ after.captures = withName state.captures ruleCapture
      ∧ after.calls = state.calls
      ∧ whole = part.mapFirst (NodeSpec.addCapture (numberIn state.captures ruleCapture)) := by
  obtain ⟨rest, offset, captures, calls⟩ := state
  subst h
  have hnext : State.next ⟨"@rule".toList, offset, captures, calls⟩ = '@' := rfl
  cases fuel with
  | zero => cases hread
  | succ fuel =>
    rw [suffixes_capture hnext, if_pos (by rfl)] at hread
    cases fuel with
    | zero => cases hread
    | succ fuel =>
      rw [suffixes_of_nil (by rfl)] at hread
      cases hread
      exact ⟨rfl, rfl, rfl, rfl⟩

/-- Suffixes are read alike with the mark behind the source and without it, up to what the mark adds. -/
theorem suffixes_along {fuel : Nat} {part whole : Pattern} {longAfter : State}
    (h : Along final long short) (hlong : suffixes fuel part long = .ok (whole, longAfter))
    {enough : Nat} (henough : short.rest.length < enough) :
    ∃ own shortAfter, suffixes enough part short = .ok (own, shortAfter)
      ∧ Finished final whole own longAfter shortAfter
      ∧ shortAfter.rest.length ≤ short.rest.length := by
  induction fuel generalizing part long short enough with
  | zero => cases hlong
  | succ fuel ih =>
    obtain ⟨more, rfl⟩ : ∃ more, enough = more + 1 :=
      Nat.exists_eq_succ_of_ne_zero (Nat.ne_zero_of_lt henough)
    cases h with
    | due hrest hnil hcaptures hcalls hscan =>
      obtain ⟨hafter, hnames, hkept, hwhole⟩ := suffixes_of_due hrest hlong
      rw [hcaptures] at hnames hwhole
      exact ⟨part, short, suffixes_of_nil hnil more part,
        .captured hafter hnil hnames (hkept.trans hcalls) hscan hwhole, Nat.le_refl _⟩
    | passed hrest hnil hcaptures hcalls hscan =>
      rw [suffixes_of_nil hrest] at hlong
      cases hlong
      exact ⟨whole, short, suffixes_of_nil hnil more whole,
        .passed hrest hnil hcaptures hcalls hscan rfl, Nat.le_refl _⟩
    | inside h hsome =>
      -- a mark that is read in both texts, and the marks behind it
      have goesOn {longNext shortNext : State} {next : Pattern}
          (halong : Along final longNext shortNext)
          (hlength : shortNext.rest.length < short.rest.length)
          (hmore : suffixes fuel next longNext = .ok (whole, longAfter)) :
          ∃ own shortAfter, suffixes more next shortNext = .ok (own, shortAfter)
            ∧ Finished final whole own longAfter shortAfter
            ∧ shortAfter.rest.length ≤ short.rest.length := by
        have hfuel : shortNext.rest.length < more := by omega
        obtain ⟨own, shortAfter, hshort, hfinished, hless⟩ := ih halong hmore hfuel
        exact ⟨own, shortAfter, hshort, hfinished, by omega⟩
      have hnext := h.next hsome
      cases htimes : timesMark long.next with
      | some times =>
        obtain ⟨halong, hless⟩ := h.advance_skip hsome rfl (plain_of_timesMark htimes)
        rw [suffixes_times htimes] at hlong
        rw [suffixes_times (hnext ▸ htimes)]
        exact goesOn halong hless hlong
      | none =>
        by_cases hcapture : long.next = '@'
        · have hbeside := h.advance hsome hcapture
          have hlength := length_advance hsome
          rw [suffixes_capture hcapture] at hlong
          rw [suffixes_capture (hnext.trans hcapture)]
          split at hlong
          · rename_i hstarts
            have hsome' := hbeside.some_of_startsName hstarts
            obtain ⟨hword, hafter, hless⟩ := hbeside.name hsome' hstarts
            have hskip := length_skip_le short.advance.name.2
            have halong := hafter.skip
            rw [hbeside.next hsome', if_pos hstarts, hword, ← halong.captures_eq, ← halong.calls_eq]
            refine goesOn (halong.having _ _) ?_ hlong
            show short.advance.name.2.skip.rest.length < short.rest.length
            omega
          · cases hlong
        · rw [suffixes_unmarked htimes hcapture] at hlong
          cases hlong
          exact ⟨whole, short, suffixes_unmarked (hnext ▸ htimes) (hnext ▸ hcapture) more whole,
            .inside h hsome rfl, Nat.le_refl _⟩

/-- Skipping blanks keeps the two readings along each other. -/
theorem Along.skip (h : Along final long short) : Along final long.skip short.skip := by
  cases h with
  | inside h => exact h.skip
  | due hlong hshort hcaptures hcalls hscan =>
    rw [skip_eq_self (by rw [hlong]; decide), skip_of_nil hshort]
    exact .due hlong hshort hcaptures hcalls hscan
  | passed hlong hshort hcaptures hcalls hscan =>
    rw [skip_of_nil hlong, skip_of_nil hshort]
    exact .passed hlong hshort hcaptures hcalls hscan

/-- What is read in both texts at some place: the end of what surrounds it, a predicate or a pattern. -/
inductive SamePiece (final : Scan) (long short : State) : Piece → Piece → State → State → Prop
  | ended (h : Beside final long short) (hsome : short.rest ≠ []) :
    SamePiece final long short .ended .ended long short
  | call {longAfter shortAfter : State} (h : Along final longAfter shortAfter)
      (hless : shortAfter.rest.length < short.rest.length)
      (hcaptures : shortAfter.captures = short.captures) :
    SamePiece final long short .call .call longAfter shortAfter
  | pattern {whole own : Pattern} {longAfter shortAfter : State}
      (h : Finished final whole own longAfter shortAfter)
      (hless : shortAfter.rest.length < short.rest.length) :
    SamePiece final long short (.pattern whole) (.pattern own) longAfter shortAfter

/-- If something is read with the mark behind the text, the same is read in the text. -/
structure SameRead (final : Scan) (long short : State) (inLong inShort : Result Piece) : Prop where
  exists_short {piece : Piece} {longAfter : State} (hlong : inLong = .ok (piece, longAfter)) :
    ∃ own shortAfter, inShort = .ok (own, shortAfter)
      ∧ SamePiece final long short piece own longAfter shortAfter

/-- Nothing is to be shown of a piece that cannot be read with the mark. -/
theorem SameRead.of_error {inLong inShort : Result Piece} {fault : PatternFault}
    (h : inLong = .error fault) : SameRead final long short inLong inShort := by
  refine ⟨fun hlong => ?_⟩
  rw [h] at hlong
  cases hlong

/-- If a pattern is read with the mark behind the text, the same pattern is read in the text, which goes
on behind it; the marks of the pattern are yet to be read. -/
structure SamePart (final : Scan) (short : State) (inLong inShort : Result Pattern) : Prop where
  exists_short {whole : Pattern} {longAfter : State} (hlong : inLong = .ok (whole, longAfter)) :
    ∃ shortAfter, inShort = .ok (whole, shortAfter) ∧ Along final longAfter.skip shortAfter.skip
      ∧ shortAfter.rest.length < short.rest.length

/-- Nothing is to be shown of a part that cannot be read with the mark. -/
theorem SamePart.of_error {inLong inShort : Result Pattern} {fault : PatternFault}
    (h : inLong = .error fault) : SamePart final short inLong inShort := by
  refine ⟨fun hlong => ?_⟩
  rw [h] at hlong
  cases hlong

/-- A part that is read alike is finished alike. -/
theorem SamePart.finish {inLong inShort : Result Pattern} (h : SamePart final short inLong inShort) :
    SameRead final long short (finish inLong) (finish inShort) := by
  refine ⟨fun hlong => ?_⟩
  cases inLong with
  | error => cases hlong
  | ok result =>
    obtain ⟨part, longPart⟩ := result
    obtain ⟨shortPart, hshort, halong, hless⟩ := h.exists_short rfl
    rw [PatternReader.finish] at hlong
    split at hlong
    · cases hlong
    · rename_i whole after hsuffixes
      cases hlong
      have hskip := length_skip_le shortPart
      obtain ⟨own, shortAfter, hown, hfinished, hle⟩ :=
        suffixes_along halong hsuffixes (Nat.lt_succ_of_le hskip)
      refine ⟨.pattern own, shortAfter, ?_, .pattern hfinished (by omega)⟩
      rw [hshort, PatternReader.finish, hown]

/-! ## Patterns -/

/-- With some fuel the readers of patterns read alike in both texts. -/
structure ReadsAlike (vocabulary : Vocabulary) (final : Scan) (fuel : Nat) : Prop where
  pattern {place : Place} {long short : State} (h : Along final long short) {enough : Nat}
    (henough : 2 * short.rest.length < enough) :
    SameRead final long short (pattern vocabulary fuel place long)
      (pattern vocabulary enough place short)
  options {place : Place} {anchored : Bool} {done : List Pattern} {long short : State}
    (h : Along final long short) {enough : Nat} (henough : 2 * short.rest.length + 1 < enough) :
    SamePart final short (options vocabulary fuel place anchored done long)
      (options vocabulary enough place anchored done short)
  row {outer : Option Nat} {anchored : Bool} {done : List Pattern} {long short : State}
    (h : Along final long short) {enough : Nat} (henough : 2 * short.rest.length + 1 < enough) :
    SamePart final short (row vocabulary fuel outer anchored done long)
      (row vocabulary enough outer anchored done short)
  items {spec : NodeSpec} {anchored : Bool} {done : List Pattern} {long short : State}
    (h : Along final long short) {enough : Nat} (henough : 2 * short.rest.length + 1 < enough) :
    SamePart final short (items vocabulary fuel spec anchored done long)
      (items vocabulary enough spec anchored done short)

variable {vocabulary : Vocabulary}

/-- The mark alone is no pattern. -/
theorem pattern_of_due {state : State} (h : state.rest = "@rule".toList) (fuel : Nat)
    (place : Place) : pattern vocabulary fuel place state = .error (.malformed state.offset) := by
  have hnext : state.next = '@' := State.next_of_rest h
  cases fuel with
  | zero => rw [pattern]
  | succ fuel =>
    rw [pattern]
    dsimp only
    rw [hnext, if_neg (by decide), if_neg (by decide), if_neg (by decide), if_neg (by decide),
      if_neg (by decide), if_neg (by decide), if_neg (by decide)]

/-- An anchor is read alike. -/
theorem Along.anchor (h : Along final long short) (anchored : Bool) :
    (anchor short anchored).1 = (anchor long anchored).1
      ∧ Along final (anchor long anchored).2 (anchor short anchored).2
      ∧ (PatternReader.anchor short anchored).2.rest.length ≤ short.rest.length := by
  by_cases hdot : long.next = '.'
  · obtain ⟨hbeside, hsome⟩ := h.inside_of_next hdot
    obtain ⟨halong, hless⟩ := hbeside.advance_skip hsome hdot
    have hdot' : short.next = '.' := (hbeside.next hsome).trans hdot
    rw [PatternReader.anchor, PatternReader.anchor, if_pos hdot, if_pos hdot']
    exact ⟨rfl, halong, Nat.le_of_lt hless⟩
  · have hdot' : short.next ≠ '.' := h.next_ne hdot (by decide)
    rw [anchor_of_next hdot, anchor_of_next hdot']
    exact ⟨rfl, h, Nat.le_refl _⟩

variable {fuel : Nat}

/-- What is read up to a closing mark. -/
theorem Beside.closed (h : Beside final long short) (hsome : short.rest ≠ []) (whole : Pattern)
    {c : Char} (hnext : long.next = c) (hc : c ≠ '"' ∧ c ≠ ';' := by decide) :
    SamePart final short (.ok (whole, long.advance)) (.ok (whole, short.advance)) := by
  refine ⟨fun hlong => ?_⟩
  cases hlong
  have hlength := length_advance hsome
  exact ⟨short.advance, rfl, (h.advance hsome hnext hc).skip, by omega⟩

/-- What is read from a place further on. -/
theorem SamePart.mono {inLong inShort : Result Pattern} {next : State}
    (h : SamePart final next inLong inShort) (hle : next.rest.length ≤ short.rest.length) :
    SamePart final short inLong inShort := by
  refine ⟨fun hlong => ?_⟩
  obtain ⟨shortAfter, hshort, halong, hless⟩ := h.exists_short hlong
  exact ⟨shortAfter, hshort, halong, Nat.lt_of_lt_of_le hless hle⟩

/-- Behind a pattern the text goes on when something is yet to close. -/
theorem Finished.samePart {whole own : Pattern} {inLong inShort : Result Pattern}
    (h : Finished final whole own long short)
    (hnil : long.rest = [] → inLong = .error (.malformed long.offset))
    (hinside : whole = own → Along final long short → SamePart final short inLong inShort) :
    SamePart final short inLong inShort := by
  cases h with
  | inside h hsome heq => exact hinside heq (.inside h hsome)
  | captured hrest => exact .of_error (hnil hrest)
  | passed hrest => exact .of_error (hnil hrest)

/-- The options of a choice are read alike, if pieces and the options behind them are. -/
theorem ReadsAlike.options_succ (ih : ReadsAlike vocabulary final fuel) {place : Place}
    {anchored : Bool} {done : List Pattern} (h : Along final long short) {enough : Nat}
    (henough : 2 * short.rest.length + 1 < enough) :
    SamePart final short (PatternReader.options vocabulary (fuel + 1) place anchored done long)
      (PatternReader.options vocabulary enough place anchored done short) := by
  obtain ⟨more, rfl⟩ : ∃ more, enough = more + 1 :=
    Nat.exists_eq_succ_of_ne_zero (Nat.ne_zero_of_lt henough)
  rw [PatternReader.options, PatternReader.options]
  cases hpattern : PatternReader.pattern vocabulary fuel place long with
  | error fault => exact .of_error rfl
  | ok result =>
    obtain ⟨piece, longNext⟩ := result
    have hfuel : 2 * short.rest.length < more := by omega
    obtain ⟨own, shortNext, hshort, hsame⟩ := (ih.pattern h hfuel).exists_short hpattern
    rw [hshort]
    cases hsame with
    | ended hbeside hsome =>
      dsimp only
      rw [hbeside.next hsome]
      by_cases hcloses : long.next = ']' ∧ done ≠ []
      · rw [if_pos hcloses, if_pos hcloses]
        exact hbeside.closed hsome _ hcloses.1
      · rw [if_neg hcloses]
        exact .of_error rfl
    | call halong hless =>
      exact (ih.options halong (by omega)).mono (Nat.le_of_lt hless)
    | pattern hfinished hless =>
      refine (hfinished.samePart (fun hnil => options_of_nil hnil fuel _ _ _) ?_).mono
        (Nat.le_of_lt hless)
      rintro rfl halong
      exact ih.options halong (by omega)

/-- The patterns of a row are read alike, if pieces and the patterns behind them are. -/
theorem ReadsAlike.row_succ (ih : ReadsAlike vocabulary final fuel) {outer : Option Nat}
    {anchored : Bool} {done : List Pattern} (h : Along final long short) {enough : Nat}
    (henough : 2 * short.rest.length + 1 < enough) :
    SamePart final short (PatternReader.row vocabulary (fuel + 1) outer anchored done long)
      (PatternReader.row vocabulary enough outer anchored done short) := by
  obtain ⟨more, rfl⟩ : ∃ more, enough = more + 1 :=
    Nat.exists_eq_succ_of_ne_zero (Nat.ne_zero_of_lt henough)
  obtain ⟨hanchored, halong, hlength⟩ := h.anchor anchored
  rw [PatternReader.row, PatternReader.row]
  dsimp only
  rw [hanchored]
  generalize PatternReader.anchor long anchored = longPlace at halong
  generalize PatternReader.anchor short anchored = shortPlace at halong hlength
  refine SamePart.mono ?_ hlength
  cases hpattern : PatternReader.pattern vocabulary fuel ⟨outer, longPlace.1⟩ longPlace.2 with
  | error fault => exact .of_error rfl
  | ok result =>
    obtain ⟨piece, longNext⟩ := result
    have hfuel : 2 * shortPlace.2.rest.length < more := by omega
    obtain ⟨own, shortNext, hshort, hsame⟩ := (ih.pattern halong hfuel).exists_short hpattern
    rw [hshort]
    cases hsame with
    | ended hbeside hsome =>
      dsimp only
      rw [hbeside.next hsome]
      by_cases hcloses : longPlace.2.next = ')'
      · rw [if_pos hcloses, if_pos hcloses]
        exact hbeside.closed hsome _ hcloses
      · rw [if_neg hcloses]
        exact .of_error rfl
    | call halong hless =>
      exact (ih.row halong (by omega)).mono (Nat.le_of_lt hless)
    | pattern hfinished hless =>
      refine (hfinished.samePart (fun hnil => row_of_nil hnil fuel _ _ _) ?_).mono
        (Nat.le_of_lt hless)
      rintro rfl halong
      exact ih.row halong (by omega)

/-- A field that no node inside may fill. -/
theorem ReadsAlike.items_absent (ih : ReadsAlike vocabulary final fuel) {spec : NodeSpec}
    {anchored : Bool} {done : List Pattern} (h : Along final long short) (hmark : long.next = '!')
    {enough : Nat} (henough : 2 * short.rest.length + 1 < enough) :
    SamePart final short (PatternReader.items vocabulary (fuel + 1) spec anchored done long)
      (PatternReader.items vocabulary enough spec anchored done short) := by
  obtain ⟨more, rfl⟩ : ∃ more, enough = more + 1 :=
    Nat.exists_eq_succ_of_ne_zero (Nat.ne_zero_of_lt henough)
  obtain ⟨hbeside, hsome⟩ := h.inside_of_next hmark
  obtain ⟨halong, hless⟩ := hbeside.advance_skip hsome hmark
  rw [PatternReader.items, PatternReader.items, if_pos hmark,
    if_pos ((hbeside.next hsome).trans hmark)]
  dsimp only
  by_cases hstarts : startsName long.advance.skip.next = true
  · obtain ⟨hbeside, hsome⟩ := halong.inside_of_startsName hstarts
    obtain ⟨hfield, hafter, hshorter⟩ := hbeside.name hsome hstarts
    have hskip := length_skip_le short.advance.skip.name.2
    rw [hbeside.next hsome, if_pos hstarts, if_pos hstarts, hfield]
    split
    · exact (ih.items hafter.skip (by omega)).mono (by omega)
    · exact .of_error rfl
  · rw [if_neg hstarts]
    exact .of_error rfl

/-- The items of a node are read alike, if pieces and the items behind them are. -/
theorem ReadsAlike.items_succ (ih : ReadsAlike vocabulary final fuel) {spec : NodeSpec}
    {anchored : Bool} {done : List Pattern} (h : Along final long short) {enough : Nat}
    (henough : 2 * short.rest.length + 1 < enough) :
    SamePart final short (PatternReader.items vocabulary (fuel + 1) spec anchored done long)
      (PatternReader.items vocabulary enough spec anchored done short) := by
  by_cases hmark : long.next = '!'
  · exact ih.items_absent h hmark henough
  have hmark' : short.next ≠ '!' := h.next_ne hmark (by decide)
  obtain ⟨more, rfl⟩ : ∃ more, enough = more + 1 :=
    Nat.exists_eq_succ_of_ne_zero (Nat.ne_zero_of_lt henough)
  obtain ⟨hanchored, halong, hlength⟩ := h.anchor anchored
  rw [PatternReader.items, PatternReader.items, if_neg hmark, if_neg hmark']
  dsimp only
  rw [hanchored]
  generalize PatternReader.anchor long anchored = longPlace at halong
  generalize PatternReader.anchor short anchored = shortPlace at halong hlength
  refine SamePart.mono ?_ hlength
  cases hpattern : PatternReader.pattern vocabulary fuel ⟨none, longPlace.1⟩ longPlace.2 with
  | error fault => exact .of_error rfl
  | ok result =>
    obtain ⟨piece, longNext⟩ := result
    have hfuel : 2 * shortPlace.2.rest.length < more := by omega
    obtain ⟨own, shortNext, hshort, hsame⟩ := (ih.pattern halong hfuel).exists_short hpattern
    rw [hshort]
    cases hsame with
    | ended hbeside hsome =>
      dsimp only
      rw [hbeside.next hsome]
      by_cases hcloses : longPlace.2.next = ')'
      · have closed (whole : Pattern) := hbeside.closed hsome whole hcloses
        rw [if_neg (not_not.mpr hcloses), if_neg (not_not.mpr hcloses)]
        split
        · split
          · exact .of_error rfl
          · exact closed _
        · exact closed _
      · rw [if_pos hcloses]
        exact .of_error rfl
    | call halong hless =>
      exact (ih.items halong (by omega)).mono (Nat.le_of_lt hless)
    | pattern hfinished hless =>
      refine (hfinished.samePart (fun hnil => items_of_nil hnil fuel _ _ _) ?_).mono
        (Nat.le_of_lt hless)
      rintro rfl halong
      exact ih.items halong (by omega)

/-- A pattern that a field is given to: its marks were read with it, unless the text goes on. -/
theorem Finished.field {whole own : Pattern} {longNext shortNext : State}
    (h : Finished final whole own longNext shortNext)
    (hless : shortNext.rest.length < short.rest.length) (field : String) :
    SameRead final long short
      (finish (.ok (whole.mapFirst (fun spec => { spec with field := some field }), longNext)))
      (finish (.ok (own.mapFirst (fun spec => { spec with field := some field }), shortNext))) := by
  cases h with
  | inside h hsome heq =>
    subst heq
    refine SamePart.finish ⟨fun hlong => ?_⟩
    cases hlong
    exact ⟨shortNext, rfl, h.skip, hless⟩
  | captured hrest hnil hcaptures hcalls hscan hwhole =>
    rw [finish_of_nil hrest, finish_of_nil hnil]
    refine ⟨fun hlong => ?_⟩
    cases hlong
    refine ⟨_, shortNext, rfl, .pattern (.captured hrest hnil hcaptures hcalls hscan ?_) hless⟩
    rw [hwhole, Pattern.mapFirst_field_addCapture]
  | passed hrest hnil hcaptures hcalls hscan heq =>
    subst heq
    rw [finish_of_nil hrest, finish_of_nil hnil]
    refine ⟨fun hlong => ?_⟩
    cases hlong
    exact ⟨_, shortNext, rfl, .pattern (.passed hrest hnil hcaptures hcalls hscan rfl) hless⟩

/-- A pattern with a field in front is read alike, if the pattern behind the field is. -/
theorem ReadsAlike.field (ih : ReadsAlike vocabulary final fuel) {place : Place}
    (h : Beside final long short) (hsome : short.rest ≠ []) (hstarts : startsName long.next = true)
    (hany : long.next ≠ '_') {more : Nat} (henough : 2 * short.rest.length < more + 1) :
    SameRead final long short (PatternReader.pattern vocabulary (fuel + 1) place long)
      (PatternReader.pattern vocabulary (more + 1) place short) := by
  have hnext := h.next hsome
  obtain ⟨hword, hafter, hless⟩ := h.name hsome hstarts
  have hskip := hafter.skip
  have hlength := length_skip_le short.name.2
  rw [pattern_field hstarts hany, pattern_field (hnext ▸ hstarts) (hnext ▸ hany)]
  by_cases hcolon : long.name.2.skip.next = ':'
  · obtain ⟨hbeside, hsome'⟩ := hskip.inside_of_next hcolon
    obtain ⟨halong, hshorter⟩ := hbeside.advance_skip hsome' hcolon
    have hcolon' : short.name.2.skip.next = ':' := (hbeside.next hsome').trans hcolon
    rw [if_neg (not_not.mpr hcolon), if_neg (not_not.mpr hcolon'), h.offset, hword]
    cases hpattern : PatternReader.pattern vocabulary fuel
        ⟨some (place.outer.getD short.offset), place.anchored⟩ long.name.2.skip.advance.skip with
    | error fault => exact .of_error rfl
    | ok result =>
      obtain ⟨piece, longNext⟩ := result
      have hfuel : 2 * short.name.2.skip.advance.skip.rest.length < more := by omega
      obtain ⟨own, shortNext, hshort, hsame⟩ := (ih.pattern halong hfuel).exists_short hpattern
      rw [hshort]
      cases hsame with
      | ended => exact .of_error rfl
      | call halong hshorter' hcaptures =>
        refine ⟨fun hlong => ?_⟩
        cases hlong
        refine ⟨.call, shortNext, rfl, .call halong (by omega) (hcaptures.trans ?_)⟩
        exact (captures_advance _).trans (captures_name short)
      | pattern hfinished hshorter' =>
        dsimp only
        split
        · exact hfinished.field (by omega) _
        · exact .of_error rfl
  · rw [if_pos hcolon]
    exact .of_error rfl

/-- What an opening parenthesis starts. -/
theorem ReadsAlike.opened (ih : ReadsAlike vocabulary final fuel) {place : Place}
    (h : Beside final long short) (hsome : short.rest ≠ []) (hopens : long.next = '(') {more : Nat}
    (henough : 2 * short.rest.length < more + 1) :
    SameRead final long short (PatternReader.pattern vocabulary (fuel + 1) place long)
      (PatternReader.pattern vocabulary (more + 1) place short) := by
  have hopens' : short.next = '(' := (h.next hsome).trans hopens
  obtain ⟨halong, hless⟩ := h.advance_skip hsome hopens
  by_cases hrow : long.advance.skip.next = '(' ∨ long.advance.skip.next = '"'
      ∨ long.advance.skip.next = '['
  · obtain ⟨hbeside, hsome'⟩ : Beside final long.advance.skip short.advance.skip
        ∧ short.advance.skip.rest ≠ [] := by
      obtain hnext | hnext | hnext := hrow
      all_goals exact halong.inside_of_next hnext
    rw [pattern_row hopens hrow, pattern_row hopens' (by rwa [hbeside.next hsome']), h.offset]
    exact SamePart.finish ((ih.row halong (by omega)).mono (Nat.le_of_lt hless))
  by_cases hcall : long.advance.skip.next = '.' ∨ long.advance.skip.next = '#'
  · obtain ⟨hbeside, hsome'⟩ : Beside final long.advance.skip short.advance.skip
        ∧ short.advance.skip.rest ≠ [] := by
      obtain hnext | hnext := hcall
      all_goals exact halong.inside_of_next hnext
    have hadvance : Beside final long.advance.skip.advance short.advance.skip.advance := by
      obtain hnext | hnext := hcall
      all_goals exact hbeside.advance hsome' hnext
    have hlength := length_advance hsome'
    rw [pattern_call hopens hcall, pattern_call hopens' (by rwa [hbeside.next hsome'])]
    refine ⟨fun hlong => ?_⟩
    split at hlong
    · cases hlong
    · rename_i after hread
      cases hlong
      obtain ⟨shortAfter, hshort, halong', hshorter, hcaptures⟩ := call_along hadvance hread
      refine ⟨.call, shortAfter, by rw [hshort], .call halong' (by omega) (hcaptures.trans ?_)⟩
      exact (captures_advance _).trans (captures_advance short)
  by_cases hname : startsName long.advance.skip.next = true
  · obtain ⟨hbeside, hsome'⟩ := halong.inside_of_startsName hname
    obtain ⟨hword, hafter, hshorter⟩ := hbeside.name hsome' hname
    rw [pattern_node hopens hname, pattern_node hopens' (by rwa [hbeside.next hsome']), h.offset,
      hbeside.offset, hword]
    cases htest : nodeTest vocabulary long.advance.skip.name.1 short.advance.skip.offset
        long.advance.skip.name.2 with
    | error fault => exact .of_error rfl
    | ok result =>
      obtain ⟨test, longTest⟩ := result
      obtain ⟨shortTest, hshort, htested, hle⟩ := nodeTest_beside hafter htest
      rw [hshort]
      dsimp only
      cases hmember : familyMember vocabulary test short.advance.skip.offset longTest with
      | error fault => exact .of_error rfl
      | ok result =>
        obtain ⟨member, longMember⟩ := result
        obtain ⟨shortMember, hshort', hmembered, hle'⟩ := familyMember_beside htested hmember
        have hskip := length_skip_le shortMember
        rw [hshort']
        exact SamePart.finish ((ih.items hmembered.skip (by omega)).mono (by omega))
  · rw [pattern_other hopens hrow hcall hname]
    exact .of_error rfl

/-- A pattern is read alike, if what stands inside it is. -/
theorem ReadsAlike.pattern_succ (ih : ReadsAlike vocabulary final fuel) {place : Place}
    (h : Along final long short) {enough : Nat} (henough : 2 * short.rest.length < enough) :
    SameRead final long short (PatternReader.pattern vocabulary (fuel + 1) place long)
      (PatternReader.pattern vocabulary enough place short) := by
  obtain ⟨more, rfl⟩ : ∃ more, enough = more + 1 :=
    Nat.exists_eq_succ_of_ne_zero (Nat.ne_zero_of_lt henough)
  cases h with
  | due hrest => exact .of_error (pattern_of_due hrest _ _)
  | passed hrest => exact .of_error (pattern_of_nil hrest _ _)
  | inside h hsome =>
    have hnext := h.next hsome
    by_cases hclosing : long.next = ')' ∨ long.next = ']'
    · rw [pattern_ended vocabulary fuel place hclosing,
        pattern_ended vocabulary more place (hnext ▸ hclosing)]
      refine ⟨fun hlong => ?_⟩
      cases hlong
      exact ⟨.ended, short, rfl, .ended h hsome⟩
    by_cases hchoice : long.next = '['
    · obtain ⟨halong, hless⟩ := h.advance_skip hsome hchoice
      rw [pattern_choice hchoice, pattern_choice (hnext.trans hchoice), h.offset]
      exact SamePart.finish ((ih.options halong (by omega)).mono (Nat.le_of_lt hless))
    by_cases hopens : long.next = '('
    · exact ih.opened h hsome hopens henough
    by_cases hany : long.next = '_'
    · obtain ⟨halong, hless⟩ := h.advance_skip hsome hany
      rw [pattern_any hany, pattern_any (hnext.trans hany), h.offset]
      refine SamePart.finish ⟨fun hlong => ?_⟩
      cases hlong
      exact ⟨_, rfl, halong.skip, hless⟩
    by_cases hquote : long.next = '"'
    · rw [pattern_token hquote, pattern_token (hnext.trans hquote), h.offset]
      cases hstring : long.string with
      | error fault => exact .of_error rfl
      | ok result =>
        obtain ⟨spelling, longAfter⟩ := result
        obtain ⟨shortAfter, hshort, hafter, hless, -⟩ := h.string hsome hquote hstring
        rw [hshort]
        dsimp only
        split
        · exact .of_error rfl
        · refine SamePart.finish ⟨fun hlong => ?_⟩
          cases hlong
          exact ⟨shortAfter, rfl, hafter.skip, hless⟩
    by_cases hname : startsName long.next = true
    · exact ih.field h hsome hname hany henough
    · exact .of_error (pattern_unreadable hclosing hchoice hopens hany hquote hname)

/-- Without fuel nothing is read. -/
theorem ReadsAlike.zero (vocabulary : Vocabulary) (final : Scan) : ReadsAlike vocabulary final 0 where
  pattern {place} _ _ _ _ _ := .of_error (pattern_zero place)
  options {place anchored _} _ _ _ _ _ := .of_error (options_zero place anchored _)
  row {outer anchored _} _ _ _ _ _ := .of_error (row_zero outer anchored _)
  items {spec anchored _} _ _ _ _ _ := .of_error (items_zero spec anchored _)

/-- The readers of patterns read alike in both texts. -/
theorem readsAlike (vocabulary : Vocabulary) (final : Scan) (fuel : Nat) :
    ReadsAlike vocabulary final fuel := by
  induction fuel with
  | zero => exact .zero vocabulary final
  | succ fuel ih => exact ⟨ih.pattern_succ, ih.options_succ, ih.row_succ, ih.items_succ⟩

/-! ## Sources -/

/-- What the source of a rule holds, told by the text in front of its capture: with the capture, unless
the text ends in a comment. -/
inductive Holds (text : List Char) (own : Top) (names : List String) : Top → List String → Prop
  | captured (hclosed : leavesComment text = false) :
    Holds text own names
      ⟨own.pattern.mapFirst (NodeSpec.addCapture (numberIn names ruleCapture)), own.calls, own.offset⟩
      (withName names ruleCapture)
  | swallowed (hopen : leavesComment text = true) : Holds text own names own names

/-- The pattern at the end of a source, if the text holds it at its end. -/
theorem Finished.holds {text : List Char} {whole own : Pattern} {offset : Nat}
    (h : Finished (Scan.plain.after text) whole own long short) (hnil : long.rest = [])
    (hread : short.rest = [] →
      read vocabulary text = .ok ([⟨own, short.calls, offset⟩], short.captures)) :
    ∃ top names, read vocabulary text = .ok ([top], names) ∧
      Holds text top names ⟨whole, long.calls, offset⟩ long.captures := by
  cases h with
  | inside hbeside hsome =>
    rw [hbeside.rest] at hnil
    exact absurd hnil (List.append_ne_nil_of_left_ne_nil hsome _)
  | captured _ hrest hcaptures hcalls hscan hwhole =>
    refine ⟨_, _, hread hrest, ?_⟩
    rw [hwhole, hcaptures, hcalls]
    exact .captured (by rw [leavesComment, hscan]; decide)
  | passed _ hrest hcaptures hcalls hscan heq =>
    refine ⟨_, _, hread hrest, ?_⟩
    rw [heq, hcaptures, hcalls]
    exact .swallowed (by rw [leavesComment, hscan]; decide)

/-- When the source of a rule holds one pattern and knows its capture, then the text in front of the
capture holds one pattern. -/
theorem read_append_ruleMark {text : List Char} {top : Top} {known : List String}
    (h : read vocabulary (text ++ ruleMark) = .ok ([top], known)) (hknown : ruleCapture ∈ known) :
    ∃ own names, read vocabulary text = .ok ([own], names) ∧ Holds text own names top known := by
  have hstart : Beside (Scan.plain.after text) ⟨text ++ ruleMark, 0, [], []⟩ ⟨text, 0, [], []⟩ :=
    ⟨rfl, rfl, rfl, rfl, rfl⟩
  have halong := hstart.skip
  have hcalls : { State.skip ⟨text ++ ruleMark, 0, [], []⟩ with calls := [] }
    = State.skip ⟨text ++ ruleMark, 0, [], []⟩ := rfl
  have hfuel : (text ++ ruleMark).length = (text.length + 5) + 1 := List.length_append
  rw [read, tops] at h
  split at h
  · cases h
  rename_i found after htops
  cases h
  split at htops
  · cases htops
  dsimp only at htops
  rw [hcalls, hfuel] at htops
  cases hpattern : pattern vocabulary
      (2 * (State.skip ⟨text ++ ruleMark, 0, [], []⟩).rest.length + 4) ⟨none, false⟩
      (State.skip ⟨text ++ ruleMark, 0, [], []⟩) with
  | error fault =>
    rw [hpattern] at htops
    cases htops
  | ok result =>
    obtain ⟨piece, longAfter⟩ := result
    rw [hpattern] at htops
    obtain ⟨own, shortAfter, hshort, hsame⟩ :=
      ((readsAlike vocabulary _ _).pattern halong
        (Nat.lt_add_of_pos_right (Nat.zero_lt_succ 3))).exists_short hpattern
    cases hsame with
    | ended => cases htops
    | call halong' hless hcaptures =>
      -- a predicate adds no capture, so the source would know none
      obtain ⟨-, -, rfl⟩ := eq_of_tops htops
      rw [halong'.captures_eq, hcaptures] at hknown
      cases hknown
    | @pattern whole own longAfter shortAfter hfinished hless =>
      obtain ⟨hnil, rfl, rfl⟩ := eq_of_tops htops
      have hsome : (State.skip ⟨text, 0, [], []⟩).rest ≠ [] :=
        List.ne_nil_of_length_pos (Nat.zero_lt_of_lt hless)
      have hoffset : (State.skip ⟨text ++ ruleMark, 0, [], []⟩).offset
          = (State.skip ⟨text, 0, [], []⟩).offset := by
        cases halong with
        | inside hbeside => exact hbeside.offset
        | due _ hrest => exact absurd hrest hsome
        | passed _ hrest => exact absurd hrest hsome
      rw [hoffset]
      exact hfinished.holds hnil (read_of_pattern hsome hshort)

end PatternReader

end Dimming
