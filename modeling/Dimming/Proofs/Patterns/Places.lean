import Dimming.Proofs.Patterns.Bare

/-!
# Places in the source of a pattern

Small laws of the steps that a reader of patterns takes: what is next, what is left behind a character, a
name or blanks, and which captures are known.
-/

set_option autoImplicit false

namespace Dimming

namespace PatternReader

/-- The next character is the first one of the rest. -/
theorem State.next_of_rest {state : State} {c : Char} {rest : List Char} (h : state.rest = c :: rest) :
    state.next = c := by
  rw [State.next, h, List.headD_cons]

/-- A rest that is not empty starts with the next character. -/
theorem State.exists_rest {state : State} (h : state.rest ≠ []) :
    ∃ rest, state.rest = state.next :: rest := by
  obtain ⟨c, rest, hrest⟩ := List.exists_cons_of_ne_nil h
  exact ⟨rest, by rw [State.next_of_rest hrest, hrest]⟩

/-- At the end the next character is the null character. -/
theorem State.next_of_nil {state : State} (h : state.rest = []) : state.next = '\x00' := by
  rw [State.next, h, List.headD_nil]

/-- Advancing is going past one character. -/
theorem advance_eq_past {state : State} (h : state.rest ≠ []) : state.advance = state.past 1 := by
  obtain ⟨rest, hrest⟩ := State.exists_rest h
  rw [State.advance, State.past, hrest]
  simp [Text.byteLength]

/-- Going past characters shortens the rest by their number. -/
theorem length_past (state : State) (count : Nat) :
    (state.past count).rest.length = state.rest.length - count :=
  List.length_drop

/-- Advancing shortens the rest by one. -/
theorem length_advance {state : State} (h : state.rest ≠ []) :
    state.advance.rest.length + 1 = state.rest.length := by
  have hpos := List.length_pos_iff.mpr h
  rw [advance_eq_past h, length_past]
  omega

/-- Skipping blanks does not lengthen the rest. -/
theorem length_skip_le (state : State) : state.skip.rest.length ≤ state.rest.length := by
  rw [State.skip, length_past]
  exact Nat.sub_le _ _

/-- The characters of a name at the start of a text. -/
def nameOf : List Char → List Char
  | [] => []
  | c :: rest => c :: rest.takeWhile continuesName

/-- Reading a name goes past its characters. -/
theorem name_eq (state : State) :
    state.name = (String.ofList (nameOf state.rest), state.past (nameOf state.rest).length) := by
  rw [State.name]
  cases state.rest <;> rfl

/-- Advancing names no capture. -/
theorem captures_advance (state : State) : state.advance.captures = state.captures := by
  rw [State.advance]
  split <;> rfl

/-- Reading a name names no capture yet. -/
theorem captures_name (state : State) : state.name.2.captures = state.captures := by
  rw [name_eq]
  rfl

/-! ## Captures -/

/-- The number of a capture name among those known, or the number that it gets. -/
def numberIn (captures : List String) (name : String) : Nat :=
  (captures.findIdx? (· == name)).getD captures.length

/-- The known capture names with one more. -/
def withName (captures : List String) (name : String) : List String :=
  if captures.contains name then captures else captures ++ [name]

/-- The same place, with other captures and predicates read. -/
def State.having (state : State) (captures : List String) (calls : List Call) : State :=
  { state with captures, calls }

/-- A name is among the captures when it has a number there. -/
theorem contains_of_findIdx? (captures : List String) (name : String) :
    captures.contains name = (captures.findIdx? (· == name)).isSome := by
  rw [List.findIdx?_isSome, List.contains_eq_any_beq]
  exact congrArg captures.any (funext fun capture => Bool.beq_comm)

/-- Adding a capture gives its number and leaves its name among the captures. -/
theorem addCapture_eq (state : State) (name : String) :
    state.addCapture name
      = (numberIn state.captures name, state.having (withName state.captures name) state.calls) := by
  rw [State.addCapture, numberIn, withName, contains_of_findIdx?]
  cases state.captures.findIdx? (· == name) <;> rfl

/-- A name that was added is found under its number. -/
theorem findIdx?_withName (captures : List String) (name : String) :
    (withName captures name).findIdx? (· == name) = some (numberIn captures name) := by
  rw [withName, numberIn, contains_of_findIdx?]
  cases hfound : captures.findIdx? (· == name) with
  | none =>
    rw [Option.isSome_none, if_neg Bool.false_ne_true, List.findIdx?_append, hfound]
    simp
  | some index =>
    rw [Option.isSome_some, if_pos rfl, hfound]
    rfl

end PatternReader

end Dimming
