import Dimming.Config
import Mathlib.Tactic.Common

/-!
# What compiled rules are tagged with

A rule is compiled for one language and under one feature, and carries both. So the base rules of a
language carry nothing but the features of base highlighting, and the rules that a registry gives for a
language carry that language and the feature of the settings that the registry was built from.
-/

set_option autoImplicit false

namespace Dimming

/-- All rules of a set belong to a language and carry a feature. -/
def RuleSet.TaggedWith (language : Language) (feature : Feature) (set : RuleSet) : Prop :=
  ∀ rule ∈ set.rules, rule.language = language ∧ rule.feature = feature

section Compile

variable {compiler : Compiler} {supply after : Supply} {language : Language} {feature : Feature}
  {default : Style}

/-- A compiled rule carries the language and the feature it was compiled for. -/
theorem Rule.tags_of_compile {entry : Entry} {rule : Rule}
    (h : Rule.compile compiler supply language feature default entry = .ok (rule, after)) :
    rule.language = language ∧ rule.feature = feature := by
  unfold Rule.compile at h
  split at h
  · cases h
  · cases h
    exact ⟨rfl, rfl⟩

/-- A compiled set carries the language and the feature it was compiled for. -/
theorem RuleSet.taggedWith_of_compile {entries : List Entry} {set : RuleSet}
    (h : RuleSet.compile compiler language feature default supply entries = .ok (set, after)) :
    set.TaggedWith language feature := by
  induction entries generalizing supply set with
  | nil =>
    cases h
    intro rule hrule
    cases hrule
  | cons entry rest ih =>
    rw [RuleSet.compile] at h
    split at h
    · cases h
    · next first middle hfirst =>
      split at h
      · cases h
      · next others last hothers =>
        cases h
        intro rule hrule
        rcases List.mem_cons.mp hrule with rfl | hrule
        · exact Rule.tags_of_compile hfirst
        · exact ih hothers rule hrule

end Compile

namespace Tables

/-- Base patterns are given for the features of base highlighting alone. -/
theorem mem_baseFeatureNames_of_mem_basePatterns {language : Language}
    {group : String × List String} (h : group ∈ basePatterns language) :
    group.1 ∈ baseFeatureNames := by
  have hnames : (basePatterns language).map (·.1) = baseFeatureNames := by
    cases language <;> rfl
  exact hnames ▸ List.mem_map_of_mem h

/-- Rules that were compiled from groups carry the features of the groups. -/
theorem feature_mem_of_compileGroups {compiler : Compiler} {language : Language}
    {supply after : Supply} {groups : List (String × List String)} {set : RuleSet}
    (h : compileGroups compiler language supply groups = .ok (set, after)) {rule : Rule}
    (hrule : rule ∈ set.rules) : ∃ group ∈ groups, rule.feature = ⟨group.1⟩ := by
  induction groups generalizing supply set with
  | nil =>
    cases h
    cases hrule
  | cons group rest ih =>
    rw [compileGroups] at h
    split at h
    · cases h
    · next first middle hfirst =>
      split at h
      · cases h
      · next more last hmore =>
        cases h
        rcases List.mem_append.mp hrule with hrule | hrule
        · exact ⟨group, List.mem_cons_self,
            (RuleSet.taggedWith_of_compile hfirst rule hrule).2⟩
        · obtain ⟨other, hother, hfeature⟩ := ih hmore hrule
          exact ⟨other, List.mem_cons_of_mem group hother, hfeature⟩

/-- Base rules carry the features of base highlighting alone. -/
theorem feature_mem_of_baseRules {language : Language} {supply after : Supply} {set : RuleSet}
    (h : baseRules supply language = .ok (set, after)) {rule : Rule} (hrule : rule ∈ set.rules) :
    rule.feature.name ∈ baseFeatureNames := by
  obtain ⟨group, hgroup, hfeature⟩ := feature_mem_of_compileGroups h hrule
  rw [hfeature]
  exact mem_baseFeatureNames_of_mem_basePatterns hgroup

end Tables

namespace Registry

/-- Where the entries of a language were taken out, other languages are found as before. -/
theorem find?_of_removed {α : Type} (sets : List (Language × α)) (language other : Language) :
    (sets.filter (fun entry => decide (entry.1 ≠ language))).find?
        (fun entry => decide (entry.1 = other)) =
      if other = language then none else sets.find? (fun entry => decide (entry.1 = other)) := by
  rw [List.find?_filter]
  split
  · next h =>
    rw [List.find?_eq_none]
    intro entry _
    simp [h]
  · next h =>
    congr 1
    funext entry
    by_cases hentry : entry.1 = other <;> simp [hentry, h]

/-- A registered rule set is found under its language, and others are found as before. -/
theorem lookup_insert (registry : Registry) (language other : Language) (rules : Shared RuleSet) :
    (registry.insert language rules).lookup other =
      if other = language then some rules else registry.lookup other := by
  unfold lookup insert
  rw [List.find?_append, find?_of_removed]
  by_cases h : other = language
  · simp [h]
  · simp [h, Ne.symm h]

/-- What is registered for a language belongs to it, and all of it carries a feature. -/
def TaggedWith (feature : Feature) (registry : Registry) : Prop :=
  ∀ language rules, registry.lookup language = some rules →
    rules.value.TaggedWith language feature

/-- A registry stays tagged with a feature when rules of that feature are put in for their language. -/
theorem TaggedWith.insert {feature : Feature} {registry : Registry}
    (h : registry.TaggedWith feature) {language : Language} {rules : Shared RuleSet}
    (hrules : rules.value.TaggedWith language feature) :
    (registry.insert language rules).TaggedWith feature := by
  intro other found hfound
  rw [lookup_insert] at hfound
  split at hfound
  · next hother =>
    cases hfound
    rw [hother]
    exact hrules
  · exact h other found hfound

section Tables

variable {compiler : Compiler} {feature : Feature} {default : Style} {supply after : Supply}
  {tables : List (Language × List Entry)} {built : Registry}

/-- Registering tables keeps a registry tagged with the feature they are compiled under. -/
theorem TaggedWith.addTables {registry : Registry} (hregistry : registry.TaggedWith feature)
    (h : Registry.addTables compiler feature default supply registry tables = .ok (built, after)) :
    built.TaggedWith feature := by
  induction tables generalizing supply registry with
  | nil =>
    cases h
    exact hregistry
  | cons table rest ih =>
    rw [Registry.addTables] at h
    split at h
    · cases h
    · next set middle hset =>
      exact ih (hregistry.insert (RuleSet.taggedWith_of_compile hset)) h

/-- A registry that is made of tables is tagged with their feature. -/
theorem taggedWith_of_ofTables (h : ofTables compiler feature default supply tables = .ok (built, after)) :
    built.TaggedWith feature := by
  refine TaggedWith.addTables ?_ h
  intro language rules hlookup
  cases hlookup

end Tables

end Registry

/-- The registry of some settings is tagged with their feature. -/
theorem Config.taggedWith_of_buildRegistry {config : Config} {compiler : Compiler}
    {supply after : Supply} {built : Registry}
    (h : config.buildRegistry compiler supply = .ok (built, after)) :
    built.TaggedWith ⟨config.feature⟩ := by
  unfold Config.buildRegistry at h
  split at h
  · cases h
  · split at h
    · cases h
    · next tables _ hbuilt =>
      cases h
      exact Registry.taggedWith_of_ofTables hbuilt

end Dimming
