import Dimming.Text.Path
import Mathlib.Tactic.Common

/-!
# The last component of a path

The text of a path falls into the directories in front, a last component, and slashes and lone dots behind
it. The last component is the file name unless it is the double dot, and the extension is what follows its
last dot unless that dot comes first. What stands around the component has no part in this.
-/

set_option autoImplicit false

namespace Dimming.Path

/-- A text that may stand in front of the last component: nothing, or directories up to a slash. -/
def Leads (directory : List Char) : Prop :=
  directory = [] ∨ ∃ before, directory = before ++ ['/']

/-- A text that may stand behind the last component: slashes, each with nothing or a lone dot behind it. -/
def Trails (trail : List Char) : Prop :=
  ∃ parts : List (List Char), (∀ part ∈ parts, part = [] ∨ part = ['.']) ∧
    trail = parts.flatMap ('/' :: ·)

/-- What is last in the text of a path when the slashes and dots at its end are dropped. -/
def LastComponent (text component : List Char) : Prop :=
  ∃ directory trail, text = directory ++ component ++ trail ∧ Leads directory ∧ Trails trail ∧
    component ≠ [] ∧ component ≠ ['.'] ∧ '/' ∉ component

/-! ## Pieces -/

/-- The pieces of a text, with a slash in front of each. -/
theorem flatMap_pieces (text : List Char) : (pieces text).flatMap ('/' :: ·) = '/' :: text := by
  induction text with
  | nil => rfl
  | cons c rest ih =>
    rw [pieces]
    split
    · next hc => rw [List.flatMap_cons, ih, hc, List.singleton_append]
    · cases hpieces : pieces rest with
      | nil =>
        rw [hpieces] at ih
        cases ih
      | cons piece more =>
        rw [hpieces, List.flatMap_cons, List.cons_append, List.cons.injEq] at ih
        simp only [List.flatMap_cons, List.cons_append, ih.2]

/-- No piece has a slash in it. -/
theorem slash_not_mem_of_mem_pieces {text piece : List Char} (h : piece ∈ pieces text) :
    '/' ∉ piece := by
  induction text generalizing piece with
  | nil =>
    rw [List.mem_singleton.mp h]
    exact List.not_mem_nil
  | cons c rest ih =>
    rw [pieces] at h
    split at h
    · rcases List.mem_cons.mp h with rfl | hrest
      · exact List.not_mem_nil
      · exact ih hrest
    · next hc =>
      split at h
      · rw [List.mem_singleton.mp h, List.mem_singleton]
        exact Ne.symm hc
      · next first more hpieces =>
        rcases List.mem_cons.mp h with rfl | hmore
        · rw [List.mem_cons, not_or]
          exact ⟨Ne.symm hc, ih (hpieces ▸ List.mem_cons_self)⟩
        · exact ih (hpieces ▸ List.mem_cons_of_mem first hmore)

/-- Every text has a piece. -/
theorem pieces_ne_nil (text : List Char) : pieces text ≠ [] := by
  intro h
  have hflat := flatMap_pieces text
  rw [h] at hflat
  cases hflat

/-- A slash parts the pieces before it from those behind it. -/
theorem pieces_append_slash (front back : List Char) :
    pieces (front ++ '/' :: back) = pieces front ++ pieces back := by
  induction front with
  | nil => rfl
  | cons c front ih =>
    rw [List.cons_append, pieces, pieces, ih]
    split
    · rfl
    · cases hpieces : pieces front with
      | nil => exact absurd hpieces (pieces_ne_nil front)
      | cons piece more => rfl

/-- A text without a slash is one piece. -/
theorem pieces_of_not_mem {text : List Char} (h : '/' ∉ text) : pieces text = [text] := by
  induction text with
  | nil => rfl
  | cons c rest ih =>
    rw [List.mem_cons, not_or] at h
    rw [pieces, if_neg (Ne.symm h.1), ih h.2]

/-- Pieces without slashes are read back from the text that they make up. -/
theorem pieces_append_flatMap {first : List Char} {parts : List (List Char)} (hfirst : '/' ∉ first)
    (hparts : ∀ part ∈ parts, '/' ∉ part) :
    pieces (first ++ parts.flatMap ('/' :: ·)) = first :: parts := by
  induction parts generalizing first with
  | nil => rw [List.flatMap_nil, List.append_nil, pieces_of_not_mem hfirst]
  | cons part parts ih =>
    obtain ⟨hpart, hrest⟩ := List.forall_mem_cons.mp hparts
    rw [List.flatMap_cons, List.cons_append, pieces_append_slash, pieces_of_not_mem hfirst,
      ih hpart hrest, List.singleton_append]

/-- The last component is the last piece that is neither empty nor a lone dot. -/
theorem lastComponent_iff {text component : List Char} :
    LastComponent text component ↔ (component ≠ [] ∧ component ≠ ['.']) ∧
      ∃ front back, pieces text = front ++ component :: back ∧
        ∀ piece ∈ back, piece = [] ∨ piece = ['.'] := by
  constructor
  · rintro ⟨directory, _, rfl, hleads, ⟨parts, hparts, rfl⟩, hne, hdot, hslash⟩
    have hfree : ∀ part ∈ parts, '/' ∉ part := by
      intro part hpart
      rcases hparts part hpart with rfl | rfl <;> decide
    have hpieces := pieces_append_flatMap hslash hfree
    refine ⟨⟨hne, hdot⟩, ?_⟩
    rcases hleads with rfl | ⟨before, rfl⟩
    · exact ⟨[], parts, hpieces, hparts⟩
    · refine ⟨pieces before, parts, ?_, hparts⟩
      rw [← hpieces, ← pieces_append_slash]
      simp
  · rintro ⟨⟨hne, hdot⟩, front, back, hpieces, hback⟩
    have hslash : '/' ∉ component :=
      slash_not_mem_of_mem_pieces (hpieces ▸ List.mem_append_right front List.mem_cons_self)
    have htext : '/' :: text = front.flatMap ('/' :: ·) ++
        '/' :: (component ++ back.flatMap ('/' :: ·)) := by
      rw [← flatMap_pieces, hpieces, List.flatMap_append, List.flatMap_cons, List.cons_append]
    -- the slash in front of the first piece is not part of the text
    cases front with
    | nil =>
      rw [List.flatMap_nil, List.nil_append, List.cons.injEq] at htext
      exact ⟨[], _, by rw [htext.2, List.nil_append], Or.inl rfl, ⟨back, hback, rfl⟩, hne, hdot,
        hslash⟩
    | cons first front =>
      rw [List.flatMap_cons, List.cons_append, List.cons_append, List.cons.injEq] at htext
      refine ⟨first ++ front.flatMap ('/' :: ·) ++ ['/'], _, ?_, Or.inr ⟨_, rfl⟩, ⟨back, hback, rfl⟩,
        hne, hdot, hslash⟩
      rw [htext.2]
      simp

/-- A path has one last component at most. -/
theorem LastComponent.unique {text component other : List Char} (h : LastComponent text component)
    (hother : LastComponent text other) : other = component := by
  have hfind : ∀ last, LastComponent text last →
      (pieces text).reverse.find? (fun piece => decide (piece ≠ [] ∧ piece ≠ ['.'])) = some last := by
    intro last hlast
    obtain ⟨hkept, front, back, hpieces, hback⟩ := lastComponent_iff.mp hlast
    rw [List.find?_eq_some_iff_append]
    refine ⟨decide_eq_true hkept, back.reverse, front.reverse, by simp [hpieces], ?_⟩
    intro piece hpiece
    rcases hback piece (List.mem_reverse.mp hpiece) with rfl | rfl <;> decide
  exact Option.some.inj ((hfind other hother).symm.trans (hfind component h))

/-! ## File names -/

/-- Empty pieces and dots stand for no step. -/
theorem stepOf_eq_none {piece : List Char} : stepOf piece = none ↔ piece = [] ∨ piece = ['.'] := by
  unfold stepOf
  split
  · next h => simp [h]
  · next h => split <;> simp [h]

/-- A piece is a name unless it is empty, a dot or two dots. -/
theorem stepOf_eq_name {piece name : List Char} :
    stepOf piece = some (.name name) ↔
      piece = name ∧ (name ≠ [] ∧ name ≠ ['.']) ∧ name ≠ ['.', '.'] := by
  unfold stepOf
  split
  · next h =>
    refine iff_of_false nofun ?_
    rintro ⟨rfl, hkept, -⟩
    exact not_or.mpr hkept h
  · next h =>
    split
    · next hup =>
      refine iff_of_false nofun ?_
      rintro ⟨rfl, -, hne⟩
      exact hne hup
    · next hup =>
      rw [Option.some.injEq, Step.name.injEq]
      refine ⟨?_, And.left⟩
      rintro rfl
      exact ⟨rfl, not_or.mp h, hup⟩

/-- Roots and leading dots are no names, so the last step is a name when the last piece is one. -/
theorem fileNameChars?_eq_some {path : String} {name : List Char} :
    fileNameChars? path = some name ↔
      ((pieces path.toList).filterMap stepOf).getLast? = some (.name name) := by
  have hlast : fileNameChars? path = some name ↔ (steps path).getLast? = some (.name name) := by
    unfold fileNameChars?
    split
    · next text htext => simp [htext]
    · next hother =>
      refine iff_of_false nofun fun hname => ?_
      exact hother name hname
  rw [hlast, steps, List.getLast?_append]
  cases hnames : ((pieces path.toList).filterMap stepOf).getLast? with
  | some step => rfl
  | none =>
    rw [Option.none_or]
    refine iff_of_false ?_ nofun
    split <;> simp

/-- The file name is the last component, unless that is the double dot. -/
theorem fileNameChars?_eq_some_iff {path : String} {name : List Char} :
    fileNameChars? path = some name ↔
      LastComponent path.toList name ∧ name ≠ ['.', '.'] := by
  rw [fileNameChars?_eq_some, List.getLast?_filterMap, List.findSome?_eq_some_iff,
    lastComponent_iff]
  constructor
  · rintro ⟨back, piece, front, hpieces, hpiece, hback⟩
    obtain ⟨rfl, hkept, hup⟩ := stepOf_eq_name.mp hpiece
    refine ⟨⟨hkept, front.reverse, back.reverse, ?_, ?_⟩, hup⟩
    · rw [List.reverse_eq_iff.mp hpieces]
      simp
    · intro other hother
      exact stepOf_eq_none.mp (hback other (List.mem_reverse.mp hother))
  · rintro ⟨⟨hkept, front, back, hpieces, hback⟩, hup⟩
    refine ⟨back.reverse, name, front.reverse, by simp [hpieces], stepOf_eq_name.mpr ⟨rfl, hkept, hup⟩,
      ?_⟩
    intro other hother
    exact stepOf_eq_none.mpr (hback other (List.mem_reverse.mp hother))

/-! ## Extensions -/

/-- A name is split at a dot behind which there is none. -/
theorem splitLastDot_eq_some {name before after : List Char} :
    splitLastDot name = some (before, after) ↔ name = before ++ '.' :: after ∧ '.' ∉ after := by
  have hsplit := List.takeWhile_append_dropWhile (p := (· != '.')) (l := name.reverse)
  constructor
  · intro h
    unfold splitLastDot at h
    simp only at h
    split at h
    · cases h
    · next d rest hdrop =>
      cases h
      have hd : d = '.' := by
        have hhead := List.head?_dropWhile_not (· != '.') name.reverse
        rw [hdrop] at hhead
        simpa using hhead
      refine ⟨?_, ?_⟩
      · rw [hdrop, hd] at hsplit
        have hname := congrArg List.reverse hsplit
        simpa using hname.symm
      · intro hmem
        have hne := List.all_eq_true.mp List.all_takeWhile '.' (List.mem_reverse.mp hmem)
        simp at hne
  · rintro ⟨rfl, hafter⟩
    have hpass : ∀ c ∈ after.reverse, (c != '.') = true := by
      intro c hc
      rw [bne_iff_ne]
      rintro rfl
      exact hafter (List.mem_reverse.mp hc)
    have hreverse : (before ++ '.' :: after).reverse = after.reverse ++ '.' :: before.reverse := by
      simp
    unfold splitLastDot
    rw [hreverse]
    dsimp only
    rw [List.takeWhile_append_of_pos hpass, List.dropWhile_append_of_pos hpass]
    simp

/-- The extension is what follows the last dot of the file name, when that dot is not its first character. -/
theorem extension?_eq_some_iff {path : String} {extension : List Char} :
    extension? path = some extension ↔
      ∃ name, fileNameChars? path = some (name ++ '.' :: extension) ∧ name ≠ [] ∧
        '.' ∉ extension := by
  unfold extension?
  cases hfile : fileNameChars? path with
  | none => simp
  | some file =>
    simp only [Option.some.injEq]
    constructor
    · intro h
      split at h
      · next first before after hsplit =>
        cases h
        obtain ⟨hname, hdot⟩ := splitLastDot_eq_some.mp hsplit
        exact ⟨first :: before, hname, List.cons_ne_nil first before, hdot⟩
      · cases h
    · rintro ⟨name, rfl, hne, hdot⟩
      rw [splitLastDot_eq_some.mpr ⟨rfl, hdot⟩]
      cases name with
      | nil => exact absurd rfl hne
      | cons first before => rfl

end Dimming.Path
