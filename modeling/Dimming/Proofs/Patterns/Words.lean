import Dimming.Proofs.Patterns.Branches
import Dimming.Proofs.Patterns.SideBySide

/-!
# Words side by side

Captures, predicates and what stands for a node end inside the text when they are read from the source
of a rule. They are read from the text alone in the same way.
-/

set_option autoImplicit false

namespace Dimming

namespace PatternReader

variable {final : Scan} {long short : State}

/-! ## Captures and predicates -/

/-- Readings along each other stay so with the same captures and calls. -/
theorem Along.having (h : Along final long short) (captures : List String) (calls : List Call) :
    Along final (long.having captures calls) (short.having captures calls) := by
  cases h with
  | inside h hsome => exact .inside ⟨h.rest, h.offset, rfl, rfl, h.scan⟩ hsome
  | due hlong hshort _ _ hscan => exact .due hlong hshort rfl rfl hscan
  | passed hlong hshort _ _ hscan => exact .passed hlong hshort rfl rfl hscan

/-- Readings along each other have the same captures. -/
theorem Along.captures_eq (h : Along final long short) : long.captures = short.captures := by
  cases h with
  | inside h => exact h.captures
  | due _ _ hcaptures => exact hcaptures
  | passed _ _ hcaptures => exact hcaptures

/-- Readings along each other have the same calls. -/
theorem Along.calls_eq (h : Along final long short) : long.calls = short.calls := by
  cases h with
  | inside h => exact h.calls
  | due _ _ _ hcalls => exact hcalls
  | passed _ _ _ hcalls => exact hcalls

/-- At the end a call is not closed. -/
theorem arguments_of_nil {state : State} (h : state.rest = []) (fuel : Nat) (done : List Argument) :
    arguments fuel done state = .error (.malformed state.offset) := by
  cases fuel with
  | zero => rfl
  | succ fuel =>
    have hone : argument state = .error (.malformed state.offset) := by
      rw [argument, State.next_of_nil h, if_neg (by decide), if_neg (by decide), if_neg (by decide)]
    rw [arguments_succ, State.next_of_nil h, if_neg (by decide), hone]

/-- The mark is no argument of a predicate that closes. -/
theorem arguments_of_due {state : State} (h : state.rest = "@rule".toList) (fuel : Nat)
    (done : List Argument) : ∃ fault, arguments fuel done state = .error fault := by
  obtain ⟨rest, offset, captures, calls⟩ := state
  subst h
  have hnext : State.next ⟨"@rule".toList, offset, captures, calls⟩ = '@' := rfl
  cases fuel with
  | zero => exact ⟨_, rfl⟩
  | succ fuel =>
    rw [arguments_succ, hnext, if_neg (by decide), argument, hnext, if_pos rfl, if_pos (by rfl)]
    split
    · exact ⟨_, rfl⟩
    · rename_i hone
      split at hone
      · cases hone
      · cases hone
        exact ⟨_, arguments_of_nil (by rfl) fuel _⟩

/-- A character that opens neither a string nor a comment is passed, and the blanks behind it. -/
theorem Beside.advance_skip (h : Beside final long short) (hsome : short.rest ≠ []) {c : Char}
    (hnext : long.next = c) (hc : c ≠ '"' ∧ c ≠ ';' := by decide) :
    Along final long.advance.skip short.advance.skip
      ∧ short.advance.skip.rest.length < short.rest.length :=
  ⟨(h.advance hsome hnext hc).skip,
    Nat.lt_of_le_of_lt (length_skip_le _) (Nat.lt_of_succ_le (Nat.le_of_eq (length_advance hsome)))⟩

/-- Where the text ends, the blank in front of the capture is next. -/
theorem Beside.some_of_next (h : Beside final long short) (hblank : long.next ≠ ' ') :
    short.rest ≠ [] := by
  intro hnil
  exact hblank (State.next_of_rest (by rw [h.rest, hnil]; rfl))

/-- Where a name starts the source has not ended. -/
theorem Beside.some_of_startsName (h : Beside final long short) (hstarts : startsName long.next = true) :
    short.rest ≠ [] := by
  refine h.some_of_next fun hblank => ?_
  rw [hblank] at hstarts
  exact absurd hstarts (by decide)

/-- An argument is read alike side by side. -/
theorem argument_beside {one : Argument} {longAfter : State} (h : Beside final long short)
    (hsome : short.rest ≠ []) (hlong : argument long = .ok (one, longAfter)) :
    ∃ shortAfter, argument short = .ok (one, shortAfter) ∧ Beside final longAfter shortAfter
      ∧ shortAfter.rest.length < short.rest.length ∧ shortAfter.captures = short.captures := by
  rw [argument] at hlong
  rw [argument, h.next hsome]
  split at hlong
  · rename_i hnext
    have hbeside := h.advance hsome hnext
    have hlength := length_advance hsome
    rw [if_pos hnext]
    split at hlong
    · rename_i hstarts
      have hsome' := hbeside.some_of_startsName hstarts
      obtain ⟨hword, hafter, hless⟩ := hbeside.name hsome' hstarts
      rw [hbeside.next hsome', if_pos hstarts, hword, ← hbeside.captures]
      split at hlong
      · cases hlong
      · cases hlong
        exact ⟨_, rfl, hafter, by omega, (captures_name _).trans (captures_advance short)⟩
    · cases hlong
  rename_i hcapture
  rw [if_neg hcapture]
  split at hlong
  · rename_i hnext
    rw [if_pos hnext]
    split at hlong
    · cases hlong
    · rename_i text after hstring
      cases hlong
      obtain ⟨shortAfter, hshort, hafter, hless, hkept⟩ := h.string hsome hnext hstring
      rw [hshort]
      exact ⟨shortAfter, rfl, hafter, hless, hkept⟩
  rename_i hquote
  rw [if_neg hquote]
  split at hlong
  · rename_i hstarts
    cases hlong
    obtain ⟨hword, hafter, hless⟩ := h.name hsome hstarts
    rw [if_pos hstarts, hword]
    exact ⟨_, rfl, hafter, hless, captures_name short⟩
  · cases hlong

/-- Arguments are read alike up to the end of their call. -/
theorem arguments_along {fuel : Nat} {done found : List Argument} {longAfter : State}
    (h : Along final long short) (hlong : arguments fuel done long = .ok (found, longAfter))
    {enough : Nat} (henough : short.rest.length < enough) :
    ∃ shortAfter, arguments enough done short = .ok (found, shortAfter)
      ∧ Along final longAfter shortAfter ∧ shortAfter.rest.length < short.rest.length
      ∧ shortAfter.captures = short.captures := by
  induction fuel generalizing done long short enough with
  | zero => cases hlong
  | succ fuel ih =>
    obtain ⟨more, rfl⟩ : ∃ more, enough = more + 1 :=
      Nat.exists_eq_succ_of_ne_zero (Nat.ne_zero_of_lt henough)
    cases h with
    | due hrest =>
      obtain ⟨fault, herror⟩ := arguments_of_due hrest (fuel + 1) done
      rw [herror] at hlong
      cases hlong
    | passed hrest =>
      rw [arguments_of_nil hrest] at hlong
      cases hlong
    | inside h hsome =>
      rw [arguments_succ] at hlong
      rw [arguments_succ, h.next hsome]
      split at hlong
      · rename_i hnext
        cases hlong
        obtain ⟨halong, hless⟩ := h.advance_skip hsome hnext
        rw [if_pos hnext]
        exact ⟨_, rfl, halong, hless, captures_advance short⟩
      rename_i hclosed
      rw [if_neg hclosed]
      split at hlong
      · cases hlong
      · rename_i one longNext hone
        obtain ⟨shortNext, hshort, hbeside, hless, hkept⟩ := argument_beside h hsome hone
        have hskip := length_skip_le shortNext
        have hfuel : shortNext.skip.rest.length < more := by omega
        obtain ⟨shortAfter, hmore, halong, hless', hkept'⟩ := ih hbeside.skip hlong hfuel
        rw [hshort]
        exact ⟨shortAfter, hmore, halong, by omega, hkept'.trans hkept⟩

/-- Where a name starts the readings are side by side. -/
theorem Along.inside_of_startsName (h : Along final long short)
    (hstarts : startsName long.next = true) : Beside final long short ∧ short.rest ≠ [] := by
  refine h.inside_of_next rfl ⟨?_, ?_⟩
  all_goals
    intro heq
    rw [heq] at hstarts
    exact absurd hstarts (by decide)

/-- A call is read alike. -/
theorem call_along {longAfter : State} (h : Beside final long short)
    (hlong : call long = .ok ((), longAfter)) :
    ∃ shortAfter, call short = .ok ((), shortAfter) ∧ Along final longAfter shortAfter
      ∧ shortAfter.rest.length < short.rest.length ∧ shortAfter.captures = short.captures := by
  rw [call] at hlong
  split at hlong
  · rename_i hstarts
    have hsome := h.some_of_startsName hstarts
    obtain ⟨hword, hafter, hless⟩ := h.name hsome hstarts
    dsimp only at hlong
    split at hlong
    · rename_i hends
      have hsome' : short.name.2.rest ≠ [] := by
        refine hafter.some_of_next fun hblank => ?_
        rw [hblank] at hends
        exact absurd hends (by decide)
      have hopens : long.name.2.next ≠ '"' ∧ long.name.2.next ≠ ';' := by
        constructor
        all_goals
          intro heq
          rw [heq] at hends
          exact absurd hends (by decide)
      obtain ⟨halong, hshorter⟩ := hafter.advance_skip hsome' rfl hopens
      split at hlong
      · cases hlong
      · rename_i found stop harguments
        cases hlong
        obtain ⟨shortStop, hshort, hstop, hlast, hkept⟩ :=
          arguments_along halong harguments (Nat.lt_succ_of_lt hshorter)
        refine ⟨shortStop.having shortStop.captures (shortStop.calls
          ++ [⟨short.name.1 ++ String.singleton short.name.2.next, found⟩]), ?_, ?_, ?_, ?_⟩
        · rw [call, h.next hsome, if_pos hstarts]
          dsimp only
          rw [hafter.next hsome', if_pos hends, hshort]
          rfl
        · rw [hword, hafter.next hsome', ← hstop.captures_eq, ← hstop.calls_eq]
          exact hstop.having _ _
        · exact Nat.lt_trans hlast (Nat.lt_trans hshorter hless)
        · exact hkept.trans ((captures_advance _).trans (captures_name short))
    · cases hlong
  · cases hlong

/-! ## What stands for a node -/

/-- What a node is tested for is read alike. -/
theorem nodeTest_beside {vocabulary : Vocabulary} {word : String} {start : Nat} {test : NodeTest}
    {longAfter : State} (h : Beside final long short)
    (hlong : nodeTest vocabulary word start long = .ok (test, longAfter)) :
    ∃ shortAfter, nodeTest vocabulary word start short = .ok (test, shortAfter)
      ∧ Beside final longAfter shortAfter ∧ shortAfter.rest.length ≤ short.rest.length := by
  rw [nodeTest] at hlong
  rw [nodeTest]
  split at hlong
  · rename_i hany
    cases hlong
    exact ⟨short, by rw [if_pos hany], h, Nat.le_refl _⟩
  rename_i hany
  rw [if_neg hany]
  split at hlong
  · rename_i hmissing
    rw [if_pos hmissing]
    dsimp only at hlong ⊢
    have hskip := h.skip
    have hlength := length_skip_le short
    split at hlong
    · rename_i hstarts
      obtain ⟨hbeside, hsome⟩ := hskip.inside_of_startsName hstarts
      obtain ⟨hname, hafter, hless⟩ := hbeside.name hsome hstarts
      rw [hbeside.next hsome, if_pos hstarts, hname]
      split at hlong
      all_goals
        cases hlong
        try exact ⟨_, rfl, hafter, by omega⟩
    rename_i hstarts
    split at hlong
    · rename_i hquote
      obtain ⟨hbeside, hsome⟩ := hskip.inside_of_next hquote
      rw [hbeside.next hsome, if_neg hstarts, if_pos hquote]
      split at hlong
      · cases hlong
      · rename_i spelling after hstring
        obtain ⟨shortAfter, hshort, hafter, hless, -⟩ := hbeside.string hsome hquote hstring
        rw [hshort]
        dsimp only
        split at hlong
        · cases hlong
          exact ⟨_, rfl, hafter, by omega⟩
        · cases hlong
    rename_i hquote
    split at hlong
    · rename_i hcloses
      obtain ⟨hbeside, hsome⟩ := hskip.inside_of_next hcloses
      cases hlong
      refine ⟨short.skip, ?_, hbeside, hlength⟩
      rw [hbeside.next hsome, if_neg hstarts, if_neg hquote, if_pos hcloses]
    · cases hlong
  · rename_i hmissing
    rw [if_neg hmissing]
    split at hlong
    · rename_i found hfound
      cases hlong
      exact ⟨short, rfl, h, Nat.le_refl _⟩
    · cases hlong

/-- The member of a family is read in both texts. -/
theorem familyMember_beside {vocabulary : Vocabulary} {kind test : NodeTest} {start : Nat}
    {longAfter : State} (h : Beside final long short)
    (hlong : familyMember vocabulary kind start long = .ok (test, longAfter)) :
    ∃ shortAfter, familyMember vocabulary kind start short = .ok (test, shortAfter)
      ∧ Beside final longAfter shortAfter ∧ shortAfter.rest.length ≤ short.rest.length := by
  unfold familyMember at hlong ⊢
  split at hlong
  · rename_i hslash
    cases hlong
    have hslash' : short.next ≠ '/' := by
      by_cases hsome : short.rest = []
      · rw [State.next_of_nil hsome]
        decide
      · rw [h.next hsome]
        exact hslash
    exact ⟨short, if_pos hslash', h, Nat.le_refl _⟩
  rename_i hslash
  have hslash := not_not.mp hslash
  have hsome : short.rest ≠ [] := h.some_of_next (by rw [hslash]; decide)
  rw [h.next hsome, if_neg (not_not.mpr hslash)]
  split at hlong
  · have hadvance := h.advance hsome hslash
    have hlength := length_advance hsome
    dsimp only at hlong ⊢
    split at hlong
    · rename_i hstarts
      have hsome' := hadvance.some_of_startsName hstarts
      obtain ⟨hword, hafter, hless⟩ := hadvance.name hsome' hstarts
      rw [hadvance.next hsome', if_pos hstarts, hword]
      split at hlong
      all_goals
        cases hlong
        try exact ⟨_, rfl, hafter, by omega⟩
    rename_i hstarts
    split at hlong
    · rename_i hquote
      have hsome' := hadvance.some_of_next (by rw [hquote]; decide)
      rw [hadvance.next hsome', if_neg hstarts, if_pos hquote]
      split at hlong
      · cases hlong
      · rename_i spelling after hstring
        obtain ⟨shortAfter, hshort, hafter, hless, -⟩ := hadvance.string hsome' hquote hstring
        rw [hshort]
        dsimp only
        split at hlong
        · rename_i hknown
          cases hlong
          exact ⟨_, if_pos hknown, hafter, by omega⟩
        · cases hlong
    · cases hlong
  · cases hlong

end PatternReader

end Dimming
