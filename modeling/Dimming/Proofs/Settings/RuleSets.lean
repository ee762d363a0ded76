import Dimming.Proofs.Settings.Registry

/-!
# Which rule sets are checked

A registry is built from the rule sets that serve languages. So what they list compiles for each language
they serve, once there is a registry. A rule set that the settings list but that serves no language is
never looked at: whatever it lists, the same registry is built, or the same failure comes of it.
-/

set_option autoImplicit false

namespace Dimming

namespace Config

variable {config : Config} {compiler : Compiler} {supply : Supply}

/-- No language is served by a rule set. -/
def Unserved (config : Config) (name : String) : Prop :=
  ∀ language, config.setOf? language ≠ some name

/-- Every listed entry has been found to compile: for the languages that its rule set serves, and for some
language if there is none of those. -/
def Checked (config : Config) (compiler : Compiler) : Prop :=
  ∀ set ∈ config.ruleSets, ∀ entry ∈ set.2,
    (∀ language, config.setOf? language = some set.1 → Compiles compiler language entry) ∧
    (config.Unserved set.1 → ∃ language, Compiles compiler language entry)

/-- The settings with a rule set added, or put in place of the one of its name. -/
def withRuleSet (config : Config) (name : String) (entries : List Entry) : Config :=
  { config with ruleSets := insertSorted name entries config.ruleSets }

/-- What is put under one key does not change what is found under another. -/
theorem lookup_insertSorted_of_ne {α : Type} {items : List (String × α)} {key other : String} {value : α}
    (h : key ≠ other) : (insertSorted key value items).lookup other = items.lookup other := by
  have hfirst : ∀ rest : List (String × α), ((key, value) :: rest).lookup other = rest.lookup other := by
    intro rest
    rw [List.lookup_cons, beq_false_of_ne (Ne.symm h)]
  induction items with
  | nil => exact hfirst []
  | cons first rest ih =>
    obtain ⟨name, old⟩ := first
    rw [insertSorted]
    split
    · exact hfirst _
    · split
      · next hsame =>
        subst hsame
        rw [hfirst, List.lookup_cons, beq_false_of_ne (Ne.symm h)]
      · rw [List.lookup_cons, List.lookup_cons, ih]

/-- A rule set that is added changes the entries of no other one. -/
theorem entriesIn?_withRuleSet_of_ne {name other : String} (h : name ≠ other) (entries : List Entry) :
    (config.withRuleSet name entries).entriesIn? other = config.entriesIn? other := by
  unfold entriesIn?
  rw [withRuleSet, lookup_insertSorted_of_ne h]

/-- The entries of a listed rule set are those that count. -/
theorem entriesIn?_of_mem (h : config.Ordered) {set : String × List Entry} (hset : set ∈ config.ruleSets) :
    config.entriesIn? set.1 = some set.2 := by
  rw [entriesIn?, h.ruleSets.lookup_eq_some.mpr hset, Option.some_or]

/-- Building a registry pays no heed to a rule set that serves no language. -/
theorem buildRegistry_withRuleSet (h : config.Ordered) {name : String} (hname : config.Unserved name)
    (entries : List Entry) :
    (config.withRuleSet name entries).buildRegistry compiler supply = config.buildRegistry compiler supply := by
  have hmapping : (config.withRuleSet name entries).mapping = config.mapping := rfl
  have htables : (config.withRuleSet name entries).tables = config.tables := by
    rcases mapping_cases h with ⟨hserved, -⟩ | ⟨_, setting, _, -, -, -, hunknown⟩
    · rw [tables_eq_mapM hserved, tables_eq_mapM (hmapping.trans hserved)]
      refine mapM_congr fun item hitem => ?_
      have hother : name ≠ item.2 := fun hsame => hname item.1 (hsame ▸ mem_served.mp hitem)
      rw [tableOf, tableOf, entriesIn?_withRuleSet_of_ne hother]
    · unfold tables
      rw [hmapping, hunknown]
  unfold buildRegistry
  rw [htables]
  rfl

/-- In complete settings a listed rule set compiles for each language that it serves. -/
theorem Complete.compiles_of_mem (h : config.Ordered) (hcomplete : config.Complete compiler)
    {set : String × List Entry} (hset : set ∈ config.ruleSets) {language : Language}
    (hserved : config.setOf? language = some set.1) : ∀ entry ∈ set.2, Compiles compiler language entry := by
  obtain ⟨entries, hentries, hall⟩ := hcomplete.compiles language set.1 hserved
  cases (entriesIn?_of_mem h hset).symm.trans hentries
  exact hall

/-- In complete settings all has been checked except what serves no language. -/
theorem Complete.checked_iff (h : config.Ordered) (hcomplete : config.Complete compiler) :
    config.Checked compiler ↔ ∀ set ∈ config.ruleSets, config.Unserved set.1 →
      ∀ entry ∈ set.2, ∃ language, Compiles compiler language entry := by
  constructor
  · intro hchecked set hset hunserved entry hentry
    exact (hchecked set hset entry hentry).2 hunserved
  · intro hunserved set hset entry hentry
    exact ⟨fun language hserved => hcomplete.compiles_of_mem h hset hserved entry hentry,
      fun hnone => hunserved set hset hnone entry hentry⟩

end Config

end Dimming

namespace Dimming.Proofs.SettingsRuleSets

open Config

/-- Rule sets are checked exactly if they serve a language.
Once a registry is built, what a listed rule set holds compiles for each language that it serves; and all
that is listed has been checked exactly if every entry of the sets that serve no language compiles for some
language, which the building does not find out: whatever a set holds that serves no language, the outcome is
the same. -/
theorem serving_sets_are_checked (config : Config) (h : config.Ordered) (compiler : Compiler)
    (supply : Supply) :
    (∀ registry after, config.buildRegistry compiler supply = .ok (registry, after) →
      (∀ set ∈ config.ruleSets, ∀ language, config.setOf? language = some set.1 →
        ∀ entry ∈ set.2, Compiles compiler language entry) ∧
      (config.Checked compiler ↔ ∀ set ∈ config.ruleSets, config.Unserved set.1 →
        ∀ entry ∈ set.2, ∃ language, Compiles compiler language entry)) ∧
    ∀ name entries, config.Unserved name →
      (config.withRuleSet name entries).buildRegistry compiler supply =
        config.buildRegistry compiler supply := by
  refine ⟨fun registry after hbuilt => ?_, fun name entries hname => buildRegistry_withRuleSet h hname entries⟩
  rcases buildRegistry_cases h compiler supply with ⟨_, _, -, hcomplete, -⟩ | ⟨cause, herror, -⟩
  · exact ⟨fun _ hset _ hserved => hcomplete.compiles_of_mem h hset hserved, hcomplete.checked_iff h⟩
  · cases hbuilt.symm.trans herror

/-- Settings with a rule set that serves no language and holds a pattern that is none. -/
def brokenQuiet : Config :=
  { Config.default with
    ruleSets := [("javascript", []), ("quiet", [⟨"(((", none⟩]), ("rust", []), ("typescript", [])] }

/-- These settings are ordered. -/
theorem brokenQuiet_ordered : brokenQuiet.Ordered :=
  ⟨.nil, by unfold Sorted; decide⟩

/-- The broken rule set serves no language. -/
theorem brokenQuiet_unserved : brokenQuiet.Unserved "quiet" := by
  intro language
  cases language <;> decide

/-- A registry is built from these settings all the same. -/
theorem exists_registry_brokenQuiet :
    ∃ built, brokenQuiet.buildRegistry compilePattern .initial = .ok built := by
  have hok : (brokenQuiet.buildRegistry compilePattern .initial).toOption.isSome = true := by
    decide +kernel
  obtain ⟨built, hbuilt⟩ := Option.isSome_iff_exists.mp hok
  exact ⟨built, eq_ok_of_toOption hbuilt⟩

/-- The registry is the same when the broken pattern is taken out. -/
theorem serving_sets_are_checked_json :
    brokenQuiet.Ordered ∧ brokenQuiet.Unserved "quiet" ∧
    ∃ built, brokenQuiet.buildRegistry compilePattern .initial = .ok built ∧
      (brokenQuiet.withRuleSet "quiet" []).buildRegistry compilePattern .initial = .ok built := by
  obtain ⟨-, hheedless⟩ :=
    serving_sets_are_checked brokenQuiet brokenQuiet_ordered compilePattern .initial
  obtain ⟨built, hbuilt⟩ := exists_registry_brokenQuiet
  exact ⟨brokenQuiet_ordered, brokenQuiet_unserved, built, hbuilt,
    (hheedless "quiet" [] brokenQuiet_unserved).trans hbuilt⟩

/-- The broken pattern is accepted: it compiles for no language, and a registry is built. -/
theorem broken_set_is_accepted :
    brokenQuiet.Ordered ∧
    (∃ built, brokenQuiet.buildRegistry compilePattern .initial = .ok built) ∧
    ¬ brokenQuiet.Checked compilePattern := by
  refine ⟨brokenQuiet_ordered, exists_registry_brokenQuiet, fun hchecked => ?_⟩
  have hlisted : ("quiet", [⟨"(((", none⟩]) ∈ brokenQuiet.ruleSets := by decide
  obtain ⟨-, hcompiles⟩ := hchecked _ hlisted ⟨"(((", none⟩ List.mem_cons_self
  obtain ⟨language, compiled, hcompiled⟩ := hcompiles brokenQuiet_unserved
  have hrefused : ∀ language, (compilePattern language "(((").toOption.isSome = false := by
    intro language
    cases language <;> decide +kernel
  have hnone := hrefused language
  rw [hcompiled] at hnone
  cases hnone

end Dimming.Proofs.SettingsRuleSets
