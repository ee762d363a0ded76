import Dimming.Language
import Dimming.Proofs.Text.LetterCase

/-!
# Names and extensions of the languages

Languages are told apart by their place, by their name and by each of their extensions. A name is found as
it is spelled, an extension in any letter case of ASCII and in no other spelling.
-/

set_option autoImplicit false

namespace Dimming

open Text

namespace Language

/-- Languages of one rank are the same. -/
theorem rank_injective {language other : Language} (h : language.rank = other.rank) : language = other := by
  cases language <;> cases other <;> first | rfl | cases h

/-- Languages of one name are the same. -/
theorem name_injective {language other : Language} (h : language.name = other.name) :
    language = other := by
  cases language <;> cases other <;> first | rfl | exact absurd h (by decide)

/-- Every language is listed. -/
theorem mem_all (language : Language) : language ∈ all := by cases language <;> decide

/-- The languages are listed by their ranks. -/
theorem pairwise_all : all.Pairwise (fun a b => a.rank < b.rank) := by decide

/-- A language is found by its name. -/
theorem ofName?_eq_some {text : String} {language : Language} :
    ofName? text = some language ↔ language.name = text := by
  constructor
  · intro h
    unfold ofName? at h
    have hname := List.find?_some h
    exact beq_iff_eq.mp hname
  · rintro rfl
    cases language <;> decide

/-- No language is found for a text that is the name of none. -/
theorem ofName?_eq_none {text : String} :
    ofName? text = none ↔ ∀ language : Language, language.name ≠ text := by
  rw [ofName?, List.find?_eq_none]
  simp [mem_all]

/-! ## Extensions -/

/-- Every listed extension is a plain word. -/
theorem isPlainWord_of_mem_extensions {language : Language} {listed : String}
    (h : listed ∈ language.extensions) : IsPlainWord listed.toList := by
  have hall : ∀ other ∈ all, ∀ listed ∈ other.extensions, IsPlainWord listed.toList := by
    decide
  exact hall language (mem_all language) listed h

/-- No extension is listed by two languages. -/
theorem eq_of_mem_extensions {language other : Language} {listed : String}
    (h : listed ∈ language.extensions) (hother : listed ∈ other.extensions) : other = language := by
  have hall : ∀ first ∈ all, ∀ second ∈ all, ∀ listed ∈ first.extensions,
      listed ∈ second.extensions → second = first := by decide
  exact hall language (mem_all language) other (mem_all other) listed h hother

/-- An extension is listed by a language in small letters just when it is up to the letter case of ASCII. -/
theorem listed_iff {language : Language} {extension small : List Char} (h : Lowers extension small) :
    (∃ listed ∈ language.extensions, small = listed.toList) ↔
      ∃ listed ∈ language.extensions, extension.map Char.toLower = listed.toList :=
  exists_congr fun _ => and_congr_right fun hlisted =>
    h.eq_iff (isPlainWord_of_mem_extensions hlisted)

/-- The language of an extension is the one that lists it. -/
theorem ofExtensionChars?_eq_some {language : Language} {extension : List Char} :
    ofExtensionChars? extension = some language ↔
      ∃ listed ∈ language.extensions, extension.map Char.toLower = listed.toList := by
  have hlists : ∀ other : Language,
      other.extensions.any (fun listed => listed.toList == lower extension) = true ↔
        ∃ listed ∈ other.extensions, lower extension = listed.toList := by
    intro other
    simp only [List.any_eq_true, beq_iff_eq, eq_comm (a := lower extension)]
  rw [← listed_iff (lowers_lower extension), ← hlists language, ofExtensionChars?]
  constructor
  · exact List.find?_some
  · intro h
    -- whichever language is found first lists the extension, and no other one does
    cases hfind : all.find? fun other =>
        other.extensions.any (fun listed => listed.toList == lower extension) with
    | none => exact absurd h (List.find?_eq_none.mp hfind language (mem_all language))
    | some found =>
      obtain ⟨listed, hlisted, hsmall⟩ := (hlists language).mp h
      have hfound := List.find?_some hfind
      obtain ⟨other, hother, hsame⟩ := (hlists found).mp hfound
      rw [← String.toList_inj.mp (hsmall.symm.trans hsame)] at hother
      rw [eq_of_mem_extensions hlisted hother]

end Language

end Dimming
