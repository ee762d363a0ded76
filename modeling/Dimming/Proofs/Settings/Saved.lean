import Dimming.Proofs.Disks.Written
import Dimming.Proofs.Settings.ReadBack
import Mathlib.Data.List.Infix

/-!
# Saved settings are loaded

Saving settings and loading them again gives the same settings. A level beyond what a settings text can hold
is refused, and then no file is touched.
-/

set_option autoImplicit false

namespace Dimming

namespace Config

variable {config : Config} {disk after : Disk} {path : String}

/-- What can come of saving settings: a directory cannot be made, the level cannot be written, the file cannot
be written, or the text of the settings is in the file. -/
theorem saveOn_cases (config : Config) (disk : Disk) (path : String) :
    (∃ cause made, disk.makeParents path = (.error cause, made) ∧
      config.saveOn disk path = (.error (.disk cause), made)) ∨
    ∃ made, disk.makeParents path = (.ok (), made) ∧
      (¬ (config.level : Int) ≤ Toml.wholeRange.2 ∧ config.saveOn disk path = (.error .unwritable, made) ∨
      (config.level : Int) ≤ Toml.wholeRange.2 ∧
        ((∃ cause, made.write path config.render = .error cause ∧
          config.saveOn disk path = (.error (.disk cause), made)) ∨
        ∃ after, made.write path config.render = .ok after ∧ config.saveOn disk path = (.ok (), after))) := by
  unfold saveOn
  cases hparents : disk.makeParents path with
  | mk outcome made =>
  cases outcome with
  | error cause => exact Or.inl ⟨cause, made, rfl, rfl⟩
  | ok _ =>
    refine Or.inr ⟨made, rfl, ?_⟩
    by_cases hlevel : (config.level : Int) ≤ Toml.wholeRange.2
    · refine Or.inr ⟨hlevel, ?_⟩
      have htext : config.toText? = some config.render := if_pos hlevel
      simp only [htext]
      cases made.write path config.render with
      | error cause => exact Or.inl ⟨cause, rfl, rfl⟩
      | ok after => exact Or.inr ⟨after, rfl, rfl⟩
    · have htext : config.toText? = none := if_neg hlevel
      simp only [htext]
      exact Or.inl ⟨hlevel, trivial⟩

/-- What can come of saving settings that can be written. -/
theorem saveTo_cases (hlevel : (config.level : Int) ≤ Toml.wholeRange.2) (disk : Disk) (path : String) :
    (∃ cause, config.saveTo disk path = .error (.disk cause) ∧ ¬ disk.Admits path) ∨
    ∃ made after : Disk, disk.makeParents path = (.ok (), made) ∧
      made.write path config.render = .ok after ∧ config.saveTo disk path = .ok after := by
  unfold saveTo
  rcases saveOn_cases config disk path with
    ⟨cause, made, hmade, hsave⟩ |
    ⟨made, hmade, ⟨hlarge, -⟩ | ⟨-, ⟨cause, hwrite, hsave⟩ | ⟨after, hwrite, hsave⟩⟩⟩
  · refine Or.inl ⟨cause, by rw [hsave], fun hadmits => ?_⟩
    obtain ⟨_, hok, -⟩ := hadmits.exists_write config.render
    cases hmade.symm.trans hok
  · exact absurd hlevel hlarge
  · refine Or.inl ⟨cause, by rw [hsave], fun hadmits => ?_⟩
    obtain ⟨other, hok, _, hafter⟩ := hadmits.exists_write config.render
    obtain rfl : made = other := congrArg Prod.snd (hmade.symm.trans hok)
    cases hwrite.symm.trans hafter
  · exact Or.inr ⟨made, after, hmade, hwrite, by rw [hsave]⟩

/-- What can come of saving settings that cannot be written. -/
theorem saveOn_cases_of_large (hlevel : ¬ (config.level : Int) ≤ Toml.wholeRange.2) (disk : Disk)
    (path : String) :
    ∃ cause after, config.saveOn disk path = (.error cause, after) ∧ after.files = disk.files ∧
      ∀ made, disk.makeParents path = (.ok (), made) → cause = .unwritable := by
  have hfiles := disk.files_makeParents path
  rcases saveOn_cases config disk path with
    ⟨cause, made, hmade, hsave⟩ | ⟨made, hmade, ⟨-, hsave⟩ | ⟨hsmall, -⟩⟩
  · rw [hmade] at hfiles
    refine ⟨_, made, hsave, hfiles, fun _ hok => ?_⟩
    cases hmade.symm.trans hok
  · rw [hmade] at hfiles
    exact ⟨_, made, hsave, hfiles, fun _ _ => rfl⟩
  · exact absurd hsmall hlevel

/-- Settings that were written to a file are loaded from it. -/
theorem loadFrom_of_write (h : config.Ordered) (hlevel : (config.level : Int) ≤ Toml.wholeRange.2)
    (hwrite : disk.write path config.render = .ok after) : loadFrom after path = .ok config := by
  rw [loadFrom, Disk.read_of_write hwrite]
  simp only [ofText_render h hlevel]

end Config

end Dimming

namespace Dimming.Proofs.SavedSettings

open Config

/-- Saving settings and loading them is lossless.
A level that a text can hold: what is saved is loaded, field by field; saving fails for causes of the disk
alone, and it succeeds exactly where the disk has room for the file. A greater level: saving never succeeds, it
fails because the settings cannot be written unless the directories cannot be made, and all files are as they
were. -/
theorem saved_settings_are_loaded (config : Config) (h : config.Ordered) (disk : Disk) (path : String) :
    (config.level ≤ 9223372036854775807 →
      (∀ after, config.saveTo disk path = .ok after → Config.loadFrom after path = .ok config) ∧
      (∀ cause, config.saveTo disk path = .error cause → ∃ fault, cause = .disk fault) ∧
      ((∃ after, config.saveTo disk path = .ok after) ↔ disk.Admits path)) ∧
    (9223372036854775807 < config.level →
      (∀ after, config.saveTo disk path ≠ .ok after) ∧
      (∀ made, disk.makeParents path = (.ok (), made) → config.saveTo disk path = .error .unwritable) ∧
      (config.saveOn disk path).2.files = disk.files) := by
  have hrange : (config.level : Int) ≤ Toml.wholeRange.2 ↔ config.level ≤ 9223372036854775807 := by
    simp only [Toml.wholeRange]
    omega
  rw [← hrange, ← Nat.not_le, ← hrange]
  constructor
  · intro hlevel
    rcases saveTo_cases hlevel disk path with
      ⟨fault, hsave, hadmits⟩ | ⟨made, last, hmade, hwrite, hsave⟩
    · rw [hsave]
      refine ⟨fun after hafter => ?_, fun cause hcause => ?_, ?_, fun hfree => absurd hfree hadmits⟩
      · cases hafter
      · exact ⟨fault, (Except.error.inj hcause).symm⟩
      · rintro ⟨after, hafter⟩
        cases hafter
    · rw [hsave]
      refine ⟨fun after hafter => ?_, fun cause hcause => ?_, fun _ => .of_write hmade hwrite,
        fun _ => ⟨last, rfl⟩⟩
      · obtain rfl := Except.ok.inj hafter
        exact loadFrom_of_write h hlevel hwrite
      · cases hcause
  · intro hlevel
    obtain ⟨cause, last, hsave, hfiles, hunwritable⟩ := saveOn_cases_of_large hlevel disk path
    have herror : config.saveTo disk path = .error cause := by rw [saveTo, hsave]
    rw [herror, hsave]
    refine ⟨fun after hafter => ?_, fun made hmade => ?_, hfiles⟩
    · cases hafter
    · rw [hunwritable made hmade]

/-- Settings with texts that need quotes of all sorts, and with rule sets with and without entries. -/
def quotedSettings : Config where
  level := 2
  feature := ""
  defaultStyle := "it's \"faint\""
  lighter := "\\\r\n\x00"
  enableByDefault := true
  languages := [("", "'''"), ("ru.st", "loud\n\"\"\"\x7F")]
  ruleSets := [("a \"b\"", []), ("c'\\", [⟨"(é)", some ""⟩, ⟨"\n\"\"\"\"", none⟩])]

/-- These settings are saved in a directory that is made for them and loaded from it. They cannot be saved where
two dots lead back to a directory, and not at all with a level that is too great. -/
theorem saved_settings_are_loaded_quoted :
    quotedSettings.Ordered ∧ Disk.empty.Admits "recede/config.toml" ∧
    (∃ after, quotedSettings.saveTo .empty "recede/config.toml" = .ok after ∧
      Config.loadFrom after "recede/config.toml" = .ok quotedSettings) ∧
    (¬ Disk.empty.Admits "recede/.." ∧
      ∃ fault, quotedSettings.saveTo .empty "recede/.." = .error (.disk fault)) ∧
    { quotedSettings with level := 9223372036854775808 }.saveTo .empty "recede/config.toml" =
      .error .unwritable := by
  have hordered : quotedSettings.Ordered := ⟨by unfold Sorted; decide, by unfold Sorted; decide⟩
  have hapart : ∀ front ∈ (Path.trail "recede/config.toml").inits,
      front ≠ Path.trail "recede/config.toml" →
        Place.afterAll [] front ≠ Place.afterAll [] (Path.trail "recede/config.toml") := by decide
  have hadmits : Disk.empty.Admits "recede/config.toml" := {
    exists_name := ⟨[.name "recede".toList], "config.toml".toList, by decide⟩
    noSlash := by decide
    unbroken := by decide
    noFile := fun _ _ _ => Or.inr rfl
    vacant := by decide
    apart := fun front hfront => hapart front ((List.mem_inits _ _).mpr hfront) }
  have hblocked : ¬ Disk.empty.Admits "recede/.." := fun h => absurd h.vacant (by decide)
  obtain ⟨hsmall, -⟩ := saved_settings_are_loaded quotedSettings hordered .empty "recede/config.toml"
  obtain ⟨hload, -, hsave⟩ := hsmall (by decide)
  obtain ⟨after, hafter⟩ := hsave.mpr hadmits
  obtain ⟨hdots, -⟩ := saved_settings_are_loaded quotedSettings hordered .empty "recede/.."
  obtain ⟨-, hfault, hnever⟩ := hdots (by decide)
  obtain ⟨fault, hfails⟩ : ∃ fault, quotedSettings.saveTo .empty "recede/.." = .error (.disk fault) := by
    cases hoften : quotedSettings.saveTo .empty "recede/.." with
    | ok after => exact absurd (hnever.mp ⟨after, hoften⟩) hblocked
    | error cause =>
      obtain ⟨fault, rfl⟩ := hfault cause hoften
      exact ⟨fault, rfl⟩
  obtain ⟨-, hlarge⟩ := saved_settings_are_loaded { quotedSettings with level := 9223372036854775808 }
    ⟨hordered.languages, hordered.ruleSets⟩ .empty "recede/config.toml"
  obtain ⟨-, hunwritable, -⟩ := hlarge (by decide)
  obtain ⟨made, hmade, -⟩ := hadmits.exists_write ""
  exact ⟨hordered, hadmits, ⟨after, hafter, hload after hafter⟩, ⟨hblocked, fault, hfails⟩,
    hunwritable made hmade⟩

end Dimming.Proofs.SavedSettings
