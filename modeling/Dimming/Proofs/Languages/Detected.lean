import Dimming.Proofs.Languages.Listed
import Dimming.Proofs.Text.FileNames

/-!
# Which paths have a language

A path has a language when its last component ends in a dot and one of the extensions of the language, in
any letter case of ASCII, and something stands in front of that dot. Nothing else about the path counts:
not the directories, not the slashes and dots behind the component, not what stands before the last dot.
-/

set_option autoImplicit false

namespace Dimming

open Text Dimming.Path

namespace Path

/-- The extension of a path whose last component has a dot behind its first character. -/
theorem extension?_of_lastComponent {path : String} {name extension : List Char}
    (h : LastComponent path.toList (name ++ '.' :: extension)) (hname : name ≠ [])
    (hdot : '.' ∉ extension) (hup : name ++ '.' :: extension ≠ ['.', '.']) :
    extension? path = some extension :=
  extension?_eq_some_iff.mpr ⟨name, fileNameChars?_eq_some_iff.mpr ⟨h, hup⟩, hname, hdot⟩

/-- A path has no extension when the only dot of its last component comes first. -/
theorem extension?_of_leading_dot {path : String} {rest : List Char}
    (h : LastComponent path.toList ('.' :: rest)) (hdot : '.' ∉ rest) : extension? path = none := by
  rw [Option.eq_none_iff_forall_ne_some]
  intro extension hextension
  obtain ⟨name, hfile, hname, -⟩ := extension?_eq_some_iff.mp hextension
  have hsame := h.unique (fileNameChars?_eq_some_iff.mp hfile).1
  cases name with
  | nil => exact hname rfl
  | cons first name =>
    rw [List.cons_append, List.cons.injEq] at hsame
    exact hdot (hsame.2 ▸ List.mem_append_right name List.mem_cons_self)

/-- A path whose last component is the double dot has no extension. -/
theorem extension?_of_up {path : String} (h : LastComponent path.toList ['.', '.']) :
    extension? path = none := by
  rw [Option.eq_none_iff_forall_ne_some]
  intro extension hextension
  obtain ⟨name, hfile, -, -⟩ := extension?_eq_some_iff.mp hextension
  obtain ⟨hlast, hup⟩ := fileNameChars?_eq_some_iff.mp hfile
  exact hup (h.unique hlast)

end Path

namespace Language

/-- The language of a path is that of its extension. -/
theorem ofPath?_eq_some {path : String} {language : Language} :
    ofPath? path = some language ↔
      ∃ extension, extension? path = some extension ∧ ofExtensionChars? extension = some language := by
  unfold ofPath?
  cases extension? path <;> simp

/-- A path has the language of the extension of its last component. -/
theorem ofPath?_of_lastComponent {path : String} {name extension : List Char}
    (h : LastComponent path.toList (name ++ '.' :: extension)) (hname : name ≠ [])
    (hdot : '.' ∉ extension) : ofPath? path = ofExtensionChars? extension := by
  unfold ofPath?
  by_cases hup : name ++ '.' :: extension = ['.', '.']
  · -- the extension of the double dot would be empty, which no language lists
    have hempty : extension = [] := by
      cases name with
      | nil => exact absurd rfl hname
      | cons first name =>
        have hlength := congrArg List.length hup
        simp only [List.length_append, List.length_cons, List.length_nil] at hlength
        exact List.eq_nil_of_length_eq_zero (by omega)
    rw [extension?_of_up (hup ▸ h), hempty]
    rfl
  · rw [extension?_of_lastComponent h hname hdot hup]

end Language

end Dimming

namespace Dimming.Proofs.LanguageDetection

open Text Dimming.Path

/-- A path has a language exactly when, without the slashes and lone dots at its end, it has a last component,
which is not the double dot, and whose last dot is not its first character and has one of the extensions
of the language behind it, in any letter case of ASCII. There is one such component at most.
In whatever form capital sigmas are put in small letters, an extension has the language exactly when
its small letters are a listed extension; then it is all in ASCII, and no other language lists it.
The language of a path is that of the extension alone, whatever the directories, the slashes and dots at the
end and the name in front of the dot are; a name whose only dot comes first has none. -/
theorem detection_follows_grammar (language : Language) :
    (∀ path : String, Language.ofPath? path = some language ↔
      ∃ component name extension, LastComponent path.toList component ∧ component ≠ ['.', '.'] ∧
        component = name ++ '.' :: extension ∧ name ≠ [] ∧ '.' ∉ extension ∧
        ∃ listed ∈ language.extensions, extension.map Char.toLower = listed.toList) ∧
    (∀ text component other, LastComponent text component → LastComponent text other →
      other = component) ∧
    (∀ extension small, Lowers extension small →
      (Language.ofExtension? (String.ofList extension) = some language ↔
        ∃ listed ∈ language.extensions, small = listed.toList)) ∧
    (∀ extension : String, Language.ofExtension? extension = some language →
      ∀ c ∈ extension.toList, IsAscii c) ∧
    (∀ other : Language, ∀ listed ∈ language.extensions, listed ∈ other.extensions →
      other = language) ∧
    ∀ directory extension trail, Leads directory → Trails trail → '/' ∉ extension →
      '.' ∉ extension →
      (∀ name, name ≠ [] → '/' ∉ name →
        Language.ofPath? (String.ofList (directory ++ (name ++ '.' :: extension) ++ trail)) =
          Language.ofExtension? (String.ofList extension)) ∧
      (extension ≠ [] →
        Language.ofPath? (String.ofList (directory ++ '.' :: extension ++ trail)) = none) := by
  refine ⟨?_, fun _ _ _ h hother => h.unique hother, ?_, ?_,
    fun other listed => Language.eq_of_mem_extensions, ?_⟩
  · intro path
    rw [Language.ofPath?_eq_some]
    constructor
    · rintro ⟨extension, hextension, hlanguage⟩
      obtain ⟨name, hfile, hname, hdot⟩ := extension?_eq_some_iff.mp hextension
      obtain ⟨hlast, hup⟩ := fileNameChars?_eq_some_iff.mp hfile
      exact ⟨_, name, extension, hlast, hup, rfl, hname, hdot,
        Language.ofExtensionChars?_eq_some.mp hlanguage⟩
    · rintro ⟨_, name, extension, hlast, hup, rfl, hname, hdot, hlisted⟩
      exact ⟨extension, extension?_of_lastComponent hlast hname hdot hup,
        Language.ofExtensionChars?_eq_some.mpr hlisted⟩
  · intro extension small hlowers
    rw [Language.listed_iff hlowers, Language.ofExtension?, String.toList_ofList,
      Language.ofExtensionChars?_eq_some]
  · intro extension hlanguage
    obtain ⟨listed, hlisted, hsame⟩ := Language.ofExtensionChars?_eq_some.mp hlanguage
    exact (Language.isPlainWord_of_mem_extensions hlisted).isAscii_of_map_toLower hsame
  · intro directory extension trail hdirectory htrail hslash hdot
    constructor
    · intro name hname hfree
      rw [Language.ofExtension?, String.toList_ofList]
      refine Language.ofPath?_of_lastComponent ?_ hname hdot
      rw [String.toList_ofList]
      refine ⟨directory, trail, rfl, hdirectory, htrail, by simp, ?_, by simp [hfree, hslash]⟩
      intro hsingle
      obtain ⟨first, rest, rfl⟩ := List.exists_cons_of_ne_nil hname
      simp at hsingle
    · intro hne
      have hlast : LastComponent (directory ++ '.' :: extension ++ trail) ('.' :: extension) :=
        ⟨directory, trail, rfl, hdirectory, htrail, by simp, by simp [hne], by simp [hslash]⟩
      rw [← String.toList_ofList (l := directory ++ '.' :: extension ++ trail)] at hlast
      rw [Language.ofPath?, extension?_of_leading_dot hlast hdot]

/-- A capital extension between a directory with a dot and slashes and dots at the end; behind a leading dot
it counts for nothing. -/
theorem detection_follows_grammar_capitals :
    Leads "src.rs/".toList ∧ Trails "//.".toList ∧ '/' ∉ "TSX".toList ∧ '.' ∉ "TSX".toList ∧
      Language.ofPath? "src.rs/View.TSX//." = some .tsx ∧ Language.ofPath? "src.rs/.TSX//." = none := by
  have hdirectory : Leads "src.rs/".toList := Or.inr ⟨"src.rs".toList, rfl⟩
  have htrail : Trails "//.".toList := ⟨[[], ['.']], by decide, rfl⟩
  have hslash : '/' ∉ "TSX".toList := by decide
  have hdot : '.' ∉ "TSX".toList := by decide
  have hlisted : Language.ofExtension? "TSX" = some .tsx := by rfl
  obtain ⟨-, -, -, -, -, haround⟩ := detection_follows_grammar .tsx
  obtain ⟨hnamed, hleading⟩ := haround "src.rs/".toList "TSX".toList "//.".toList hdirectory htrail
    hslash hdot
  exact ⟨hdirectory, htrail, hslash, hdot,
    (hnamed "View".toList (by decide) (by decide)).trans hlisted, hleading (by decide)⟩

end Dimming.Proofs.LanguageDetection
