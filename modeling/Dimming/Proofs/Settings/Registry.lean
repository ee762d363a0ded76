import Dimming.Proofs.Rules.Base
import Dimming.Proofs.Settings.Mapping

/-!
# The registry of some settings

A registry is built in three stages: the names of languages are looked up, then the rule sets that serve them,
and then their entries are compiled. The first stage that fails says why, and it names the first thing that is
wrong there. When no stage fails, the registry is the settings merged with what is built in.
-/

set_option autoImplicit false

namespace Dimming

namespace Config

variable {config : Config}

/-- All settings are in order: they name languages, and every rule set that serves a language is there and
compiles for it. -/
structure Complete (config : Config) (compiler : Compiler) : Prop where
  known : config.NamesLanguages
  compiles : ∀ language name, config.setOf? language = some name →
    ∃ entries, config.entriesIn? name = some entries ∧
      ∀ entry ∈ entries, Compiles compiler language entry

/-- Why no registry comes of some settings: the first name of no language, or else the first language whose
rule set is missing, or else the first entry that does not compile for the first language with such an
entry. -/
inductive Refused (config : Config) (compiler : Compiler) : ConfigError → Prop
  | unknownLanguage (text : String) (hlisted : text ∈ config.languages.map (·.1))
      (hunknown : ∀ language : Language, language.name ≠ text)
      (hleast : ∀ other ∈ config.languages.map (·.1), (∀ language : Language, language.name ≠ other) →
        text ≤ other) :
      Refused config compiler (.unknownLanguage text)
  | unknownRuleSet (language : Language) (name : String) (hknown : config.NamesLanguages)
      (hserved : config.setOf? language = some name) (hmissing : config.entriesIn? name = none)
      (hleast : ∀ other missing, config.setOf? other = some missing → config.entriesIn? missing = none →
        language.rank ≤ other.rank) :
      Refused config compiler (.unknownRuleSet language name)
  | invalidPattern (language : Language) (name : String) (entries : List Entry) (entry : Entry)
      (fault : RuleFault) (hknown : config.NamesLanguages)
      (hfound : ∀ other name, config.setOf? other = some name → config.entriesIn? name ≠ none)
      (hserved : config.setOf? language = some name) (hentries : config.entriesIn? name = some entries)
      (hfirst : FirstFault compiler language entries entry fault)
      (hbefore : ∀ other name entries, other.rank < language.rank → config.setOf? other = some name →
        config.entriesIn? name = some entries → ∀ entry ∈ entries, Compiles compiler other entry) :
      Refused config compiler (.rules (.invalidPattern language entry.pattern fault))

section Refused

variable {compiler : Compiler} {cause : ConfigError}

/-- Settings that are refused are not complete. -/
theorem Refused.not_complete (h : config.Refused compiler cause) : ¬ config.Complete compiler := by
  rintro ⟨hknown, hcompiles⟩
  cases h with
  | unknownLanguage text hlisted hunknown _ =>
    obtain ⟨setting, hsetting, rfl⟩ := List.mem_map.mp hlisted
    obtain ⟨language, hname⟩ := hknown setting hsetting
    exact hunknown language hname
  | unknownRuleSet language name _ hserved hmissing _ =>
    obtain ⟨entries, hentries, -⟩ := hcompiles language name hserved
    cases hmissing.symm.trans hentries
  | invalidPattern language name entries entry fault _ _ hserved hentries hfirst _ =>
    obtain ⟨found, hfound, hall⟩ := hcompiles language name hserved
    cases hentries.symm.trans hfound
    obtain ⟨other, hother, hnot⟩ := hfirst.exists_not_compiles
    exact hnot (hall other hother)

/-- Settings are refused for one cause at most. -/
theorem Refused.unique (h : config.Refused compiler cause) {other : ConfigError}
    (hother : config.Refused compiler other) : other = cause := by
  have hstage : ∀ {text : String}, text ∈ config.languages.map (·.1) →
      (∀ language : Language, language.name ≠ text) → ¬ config.NamesLanguages := by
    intro text hlisted hunknown hknown
    obtain ⟨setting, hsetting, rfl⟩ := List.mem_map.mp hlisted
    obtain ⟨language, hname⟩ := hknown setting hsetting
    exact hunknown language hname
  -- causes of different stages exclude each other, and within a stage each is the least
  cases h with
  | unknownLanguage text hlisted hunknown hleast =>
    cases hother with
    | unknownLanguage second hsecond hnone hfirst =>
      rw [String.le_antisymm (hleast second hsecond hnone) (hfirst text hlisted hunknown)]
    | unknownRuleSet _ _ hknown => exact absurd hknown (hstage hlisted hunknown)
    | invalidPattern _ _ _ _ _ hknown => exact absurd hknown (hstage hlisted hunknown)
  | unknownRuleSet language name hknown hserved hmissing hleast =>
    cases hother with
    | unknownLanguage _ hlisted hunknown => exact absurd hknown (hstage hlisted hunknown)
    | unknownRuleSet second missing _ hsecond hnone hfirst =>
      have hrank := Nat.le_antisymm (hleast second missing hsecond hnone)
        (hfirst language name hserved hmissing)
      cases Language.rank_injective hrank
      cases hserved.symm.trans hsecond
      rfl
    | invalidPattern _ _ _ _ _ _ hfound => exact absurd hmissing (hfound language name hserved)
  | invalidPattern language name entries entry fault hknown hfound hserved hentries hfirst hbefore =>
    cases hother with
    | unknownLanguage _ hlisted hunknown => exact absurd hknown (hstage hlisted hunknown)
    | unknownRuleSet second missing _ hsecond hnone => exact absurd hnone (hfound second missing hsecond)
    | invalidPattern second other others faulty why _ _ hsecond hothers hfaulty hearlier =>
      obtain ⟨bad, hbad, hnot⟩ := hfirst.exists_not_compiles
      obtain ⟨worse, hworse, hnor⟩ := hfaulty.exists_not_compiles
      have hle : second.rank ≤ language.rank := Nat.not_lt.mp fun hless =>
        hnot (hearlier language name entries hless hserved hentries bad hbad)
      have hge : language.rank ≤ second.rank := Nat.not_lt.mp fun hless =>
        hnor (hbefore second other others hless hsecond hothers worse hworse)
      cases Language.rank_injective (Nat.le_antisymm hge hle)
      cases hserved.symm.trans hsecond
      cases hentries.symm.trans hothers
      obtain ⟨rfl, rfl⟩ := hfirst.unique hfaulty
      rfl

end Refused

/-- A registry has what the settings say: rules for the languages that are served, and for no others; and
they stem from the entries one for one. -/
structure Merged (config : Config) (compiler : Compiler) (registry : Registry) : Prop where
  isSome_lookup : ∀ language, (registry.lookup language).isSome ↔ (config.setOf? language).isSome
  stems : ∀ language name entries, config.setOf? language = some name →
    config.entriesIn? name = some entries → ∃ rules, registry.lookup language = some rules ∧
      List.Forall₂ (StemsFrom compiler language ⟨config.feature⟩ ⟨config.defaultStyle⟩) entries
        rules.value.rules

/-- What comes of the tables of settings whose rule sets are all there. -/
theorem merged_of_holds {compiler : Compiler} {registry : Registry}
    (hfound : ∀ language name, config.setOf? language = some name →
      ∃ entries, config.entriesIn? name = some entries)
    (hholds : Registry.Holds compiler ⟨config.feature⟩ ⟨config.defaultStyle⟩ .empty config.stocked registry) :
    config.Merged compiler registry := by
  have hstems : ∀ language name entries, config.setOf? language = some name →
      config.entriesIn? name = some entries → ∃ rules, registry.lookup language = some rules ∧
        List.Forall₂ (StemsFrom compiler language ⟨config.feature⟩ ⟨config.defaultStyle⟩) entries
          rules.value.rules :=
    fun language name entries hserved hentries =>
      hholds.told (language, entries) (mem_stocked.mpr ⟨name, hserved, hentries⟩)
  refine ⟨fun language => ?_, hstems⟩
  cases hserved : config.setOf? language with
  | some name =>
    obtain ⟨entries, hentries⟩ := hfound language name hserved
    obtain ⟨rules, hlookup, -⟩ := hstems language name entries hserved hentries
    rw [hlookup]
    exact Iff.rfl
  | none =>
    have huntold : language ∉ config.stocked.map (·.1) := by
      intro hmem
      obtain ⟨⟨other, entries⟩, htable, rfl⟩ := List.mem_map.mp hmem
      obtain ⟨name, hsome, -⟩ := mem_stocked.mp htable
      cases hserved.symm.trans hsome
    rw [hholds.untold language huntold]
    exact Iff.rfl

/-- What is not among the first items of an ordered list is the next one or comes after it. -/
theorem after_of_split {α : Type} {r : α → α → Prop} {before later : List α} {item other : α}
    (h : (before ++ item :: later).Pairwise r) (hmem : other ∈ before ++ item :: later)
    (hother : other ∉ before) : other = item ∨ r item other := by
  rcases List.mem_cons.mp ((List.mem_append.mp hmem).resolve_left hother) with hsame | hlater
  · exact Or.inl hsame
  · exact Or.inr ((List.pairwise_cons.mp (List.pairwise_append.mp h).2.1).1 other hlater)

namespace Refused

variable {compiler : Compiler}

/-- The first setting of no language is a cause for refusal. -/
theorem of_languages (h : config.Ordered) {before later : List (String × String)} {text name : String}
    (hsplit : config.languages = before ++ (text, name) :: later)
    (hbefore : ∀ other ∈ before, ∃ language : Language, language.name = other.1)
    (hunknown : ∀ language : Language, language.name ≠ text) :
    config.Refused compiler (.unknownLanguage text) := by
  refine .unknownLanguage text (by simp [hsplit]) hunknown fun other hother hnone => ?_
  obtain ⟨setting, hsetting, rfl⟩ := List.mem_map.mp hother
  have hordered : config.languages.Pairwise (fun a b => a.1 < b.1) := h.languages
  rw [hsplit] at hsetting hordered
  have hlater : setting ∉ before := by
    intro hearlier
    obtain ⟨language, hname⟩ := hbefore setting hearlier
    exact hnone language hname
  rcases after_of_split hordered hsetting hlater with rfl | hafter
  · exact String.le_refl _
  · exact String.not_lt.mp (String.lt_asymm hafter)

/-- The first language whose rule set is missing is a cause for refusal. -/
theorem of_served (hknown : config.NamesLanguages) {before later : List (Language × String)}
    {language : Language} {name : String} (hsplit : config.served = before ++ (language, name) :: later)
    (hbefore : ∀ other ∈ before, ∃ entries, config.entriesIn? other.2 = some entries)
    (hmissing : config.entriesIn? name = none) :
    config.Refused compiler (.unknownRuleSet language name) := by
  have hmem : (language, name) ∈ config.served := by simp [hsplit]
  refine .unknownRuleSet language name hknown (mem_served.mp hmem) hmissing fun other missing hother hnone => ?_
  have hitem : (other, missing) ∈ config.served := mem_served.mpr hother
  have hordered := @pairwise_served config
  rw [hsplit] at hitem hordered
  have hlater : (other, missing) ∉ before := by
    intro hearlier
    obtain ⟨entries, hsome⟩ := hbefore (other, missing) hearlier
    cases hnone.symm.trans hsome
  rcases after_of_split hordered hitem hlater with hsame | hafter
  · cases hsame
    exact Nat.le_refl _
  · exact Nat.le_of_lt hafter

/-- The first entry that does not compile is a cause for refusal. -/
theorem of_stocked (hknown : config.NamesLanguages)
    (hfound : ∀ language name, config.setOf? language = some name →
      ∃ entries, config.entriesIn? name = some entries)
    {before later : List (Language × List Entry)} {language : Language} {entries : List Entry}
    (hsplit : config.stocked = before ++ (language, entries) :: later)
    (hbefore : ∀ table ∈ before, ∀ entry ∈ table.2, Compiles compiler table.1 entry)
    {entry : Entry} {fault : RuleFault} (hfirst : FirstFault compiler language entries entry fault) :
    config.Refused compiler (.rules (.invalidPattern language entry.pattern fault)) := by
  have hmem : (language, entries) ∈ config.stocked := by simp [hsplit]
  obtain ⟨name, hserved, hentries⟩ := mem_stocked.mp hmem
  refine .invalidPattern language name entries entry fault hknown ?_ hserved hentries hfirst ?_
  · intro other name hother hnone
    obtain ⟨found, hsome⟩ := hfound other name hother
    cases hnone.symm.trans hsome
  · intro other name others hless hother hothers
    have htable : (other, others) ∈ config.stocked := mem_stocked.mpr ⟨name, hother, hothers⟩
    have hordered := @pairwise_stocked config
    rw [hsplit] at htable hordered
    have hearlier : (other, others) ∈ before := by
      by_contra hlater
      rcases after_of_split hordered htable hlater with hsame | hafter
      · cases hsame
        exact Nat.lt_irrefl _ hless
      · exact Nat.lt_asymm hless hafter
    exact hbefore (other, others) hearlier

end Refused

/-- Building a registry either merges complete settings or says why not. -/
theorem buildRegistry_cases (h : config.Ordered) (compiler : Compiler) (supply : Supply) :
    (∃ registry after, config.buildRegistry compiler supply = .ok (registry, after) ∧
      config.Complete compiler ∧ config.Merged compiler registry) ∨
    ∃ cause, config.buildRegistry compiler supply = .error cause ∧ config.Refused compiler cause := by
  unfold buildRegistry
  rcases mapping_cases h with
    ⟨hmapping, hknown⟩ | ⟨before, setting, later, hsplit, hbefore, hunknown, hmapping⟩
  · rcases tables_cases hmapping with
      ⟨htables, hall⟩ | ⟨before, language, name, later, hsplit, hbefore, hmissing, htables⟩
    · have hfound : ∀ language name, config.setOf? language = some name →
          ∃ entries, config.entriesIn? name = some entries :=
        fun language name hserved => hall (language, name) (mem_served.mpr hserved)
      have hdistinct : (config.stocked.map (·.1)).Nodup := by
        rw [List.nodup_iff_pairwise_ne, List.pairwise_map]
        exact pairwise_stocked.imp fun hless hsame => Nat.ne_of_lt hless (congrArg Language.rank hsame)
      rw [htables]
      dsimp only [Registry.ofTables]
      rcases Registry.addTables_cases compiler ⟨config.feature⟩ ⟨config.defaultStyle⟩ supply .empty
          config.stocked hdistinct with
        ⟨registry, after, hadd, hholds⟩ |
        ⟨before, language, entries, later, entry, fault, hsplit, hbefore, hfirst, hadd⟩
      · have hmerged := merged_of_holds hfound hholds
        rw [hadd]
        refine Or.inl ⟨registry, after, rfl, ⟨hknown, fun language name hserved => ?_⟩, hmerged⟩
        obtain ⟨entries, hentries⟩ := hfound language name hserved
        obtain ⟨rules, -, hstems⟩ := hmerged.stems language name entries hserved hentries
        exact ⟨entries, hentries, compiles_of_stemsFrom hstems⟩
      · rw [hadd]
        exact Or.inr ⟨_, rfl, .of_stocked hknown hfound hsplit hbefore hfirst⟩
    · rw [htables]
      exact Or.inr ⟨_, rfl, .of_served hknown hsplit hbefore hmissing⟩
  · have htables : config.tables = .error (.unknownLanguage setting.1) := by
      unfold tables
      rw [hmapping]
    rw [htables]
    exact Or.inr ⟨_, rfl, .of_languages h hsplit hbefore hunknown⟩

end Config

end Dimming

namespace Dimming.Proofs.SettingsRegistry

open Config

/-- Building a registry is merging the settings with what is built in.
It succeeds exactly if the settings name languages and every rule set that serves a language is there and
compiles for it. Then the registry has the served languages alone, each with one rule for each entry, in
order. Otherwise it fails with the one cause for which such settings are refused. -/
theorem registry_is_merged_settings (config : Config) (h : config.Ordered) (compiler : Compiler)
    (supply : Supply) :
    ((∃ registry after, config.buildRegistry compiler supply = .ok (registry, after)) ↔
      config.Complete compiler) ∧
    (∀ registry after, config.buildRegistry compiler supply = .ok (registry, after) →
      config.Merged compiler registry) ∧
    ∀ cause, config.buildRegistry compiler supply = .error cause ↔ config.Refused compiler cause := by
  rcases buildRegistry_cases h compiler supply with
    ⟨registry, after, hbuilt, hcomplete, hmerged⟩ | ⟨cause, hbuilt, hrefused⟩
  · refine ⟨⟨fun _ => hcomplete, fun _ => ⟨registry, after, hbuilt⟩⟩, ?_, fun cause => ⟨?_, ?_⟩⟩
    · intro other last hother
      cases hbuilt.symm.trans hother
      exact hmerged
    · intro herror
      cases hbuilt.symm.trans herror
    · intro hrefused
      exact absurd hcomplete hrefused.not_complete
  · refine ⟨⟨?_, fun hcomplete => absurd hcomplete hrefused.not_complete⟩, ?_, fun other => ⟨?_, ?_⟩⟩
    · rintro ⟨registry, after, hok⟩
      cases hbuilt.symm.trans hok
    · intro registry after hok
      cases hbuilt.symm.trans hok
    · intro hother
      cases hbuilt.symm.trans hother
      exact hrefused
    · intro hother
      rw [hrefused.unique hother]
      exact hbuilt

/-- Settings that mark comments in JavaScript and Python and nothing in Rust and TypeScript. JSON has the
entries of its built-in table. -/
def quietComments : Config :=
  { Config.default with
    languages := [("javascript", "quiet"), ("python", "quiet")]
    ruleSets := [("quiet", [⟨"(comment)", some "faint"⟩]), ("rust", []), ("typescript", [])] }

/-- Nothing is wrong with these settings. -/
theorem quietComments_complete : quietComments.Complete compilePattern where
  known := by
    intro setting hsetting
    simp only [quietComments, List.mem_cons, List.not_mem_nil, or_false] at hsetting
    rcases hsetting with rfl | rfl
    · exact ⟨.javaScript, rfl⟩
    · exact ⟨.python, rfl⟩
  compiles := by
    have hcomments : ∀ language, ("comment", ["(comment)"]) ∈ Tables.basePatterns language →
        ∀ entry ∈ [(⟨"(comment)", some "faint"⟩ : Entry)], Compiles compilePattern language entry := by
      intro language hbase entry hentry
      obtain rfl := List.mem_singleton.mp hentry
      exact Tables.exists_compiled_of_mem_basePatterns hbase List.mem_cons_self
    have hbrackets : ∀ entry ∈ Tables.plain Tables.json, Compiles compilePattern .json entry := by
      have hall : ∀ entry ∈ Tables.plain Tables.json,
          (compilePattern .json entry.pattern).toOption.isSome = true := by
        decide +kernel
      intro entry hentry
      obtain ⟨compiled, hcompiled⟩ := Option.isSome_iff_exists.mp (hall entry hentry)
      exact ⟨compiled, eq_ok_of_toOption hcompiled⟩
    intro language name hserved
    cases language with
    | javaScript =>
      obtain rfl := Option.some.inj hserved
      exact ⟨_, rfl, hcomments .javaScript (by decide)⟩
    | typeScript =>
      obtain rfl := Option.some.inj hserved
      exact ⟨[], rfl, nofun⟩
    | tsx =>
      obtain rfl := Option.some.inj hserved
      exact ⟨[], rfl, nofun⟩
    | rust =>
      obtain rfl := Option.some.inj hserved
      exact ⟨[], rfl, nofun⟩
    | python =>
      obtain rfl := Option.some.inj hserved
      exact ⟨_, rfl, hcomments .python (by decide)⟩
    | json =>
      obtain rfl := Option.some.inj hserved
      exact ⟨_, rfl, hbrackets⟩

/-- Settings with faults of all stages. -/
def faulty : Config :=
  { quietComments with languages := [("ada", "rust"), ("cobol", "rust"), ("json", "loud")] }

/-- Python has the rules that the settings list, and JSON has the built-in ones. Of several faults the first
unknown language is reported. -/
theorem registry_is_merged_settings_json :
    (quietComments.Ordered ∧ quietComments.Complete compilePattern ∧
      ∃ registry after listed builtIn,
        quietComments.buildRegistry compilePattern .initial = .ok (registry, after) ∧
        registry.lookup .python = some listed ∧
        listed.value.rules.map (fun rule => (rule.pattern, rule.style.name)) = [("(comment)", "faint")] ∧
        registry.lookup .json = some builtIn ∧
        builtIn.value.rules.map (fun rule => (rule.pattern, rule.style.name)) =
          [("[\"\x7b\" \"\x7d\" \"[\" \"]\"]", "deemphasis"), ("[\":\" \",\"]", "deemphasis")]) ∧
    faulty.Ordered ∧ faulty.buildRegistry compilePattern .initial = .error (.unknownLanguage "ada") := by
  have hordered : quietComments.Ordered := ⟨by unfold Sorted; decide, by unfold Sorted; decide⟩
  have hfaulty : faulty.Ordered := ⟨by unfold Sorted; decide, hordered.ruleSets⟩
  obtain ⟨hcomplete, hmerged, -⟩ :=
    registry_is_merged_settings quietComments hordered compilePattern .initial
  obtain ⟨-, -, hrefused⟩ := registry_is_merged_settings faulty hfaulty compilePattern .initial
  obtain ⟨registry, after, hbuilt⟩ := hcomplete.mpr quietComments_complete
  have htold := (hmerged registry after hbuilt).stems
  obtain ⟨listed, hpython, hlisted⟩ := htold .python "quiet" _ rfl rfl
  obtain ⟨builtIn, hjson, hbuiltIn⟩ := htold .json "json" _ rfl rfl
  have hunknown : ∀ language : Language, language.name ≠ "ada" := Language.ofName?_eq_none.mp (by decide)
  have hleast : ∀ other ∈ faulty.languages.map (·.1), "ada" ≤ other := by decide
  exact ⟨⟨hordered, quietComments_complete, registry, after, listed, builtIn, hbuilt, hpython,
    StemsFrom.map_eq hlisted, hjson, StemsFrom.map_eq hbuiltIn⟩, hfaulty,
    (hrefused _).mpr (.unknownLanguage "ada" (by decide) hunknown fun other hother _ => hleast other hother)⟩

end Dimming.Proofs.SettingsRegistry
