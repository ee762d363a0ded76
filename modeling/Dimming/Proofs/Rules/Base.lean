import Dimming.Proofs.Patterns.Bare
import Dimming.Proofs.Patterns.Kinds
import Dimming.Proofs.Rules.Built

/-!
# Base rules compile

The patterns of base highlighting name bare kinds, and the grammar of each language knows the kinds that
its own patterns name. So the base rules of every language compile.
-/

set_option autoImplicit false

namespace Dimming

open PatternReader

/-- A grammar has an extra of a kind, or one of some definitions can put the kind into a tree. -/
def Grammar.offers (grammar : Grammar) (sources : List String) (kind : String) : Bool :=
  (grammar.extras.any fun extra => extra.kind == kind) ||
    grammar.definitions.any fun definition => sources.contains definition.name &&
      (definition.form.addNames Vocabulary.empty).kinds.contains kind

/-- A grammar knows the kinds that it offers. -/
theorem Grammar.mem_kinds_of_offers {grammar : Grammar} {sources : List String} {kind : String}
    (h : grammar.offers sources kind = true) : kind ∈ grammar.vocabulary.kinds := by
  rw [offers, Bool.or_eq_true, List.any_eq_true, List.any_eq_true] at h
  obtain ⟨extra, hextra, hkind⟩ | ⟨definition, hdefinition, hforms⟩ := h
  · rw [← beq_iff_eq.mp hkind]
    exact mem_kinds_of_extra hextra
  · rw [Bool.and_eq_true] at hforms
    exact mem_kinds_of_form hdefinition (List.contains_iff_mem.mp hforms.2)

/-- The source of a pattern is a kind in parentheses, or a choice of such kinds in brackets. -/
def Writes (pattern : String) (kinds : List String) : Prop :=
  ruleSource pattern = choiceSource (kinds.map String.toList) " @rule".toList ∨
    kinds.map (fun kind => kindSource kind.toList " @rule".toList) = [ruleSource pattern]

instance (pattern : String) (kinds : List String) : Decidable (Writes pattern kinds) :=
  inferInstanceAs (Decidable (_ ∨ _))

/-- A pattern of plain kinds that a language knows compiles. -/
theorem Writes.exists_compiled {language : Language} {pattern : String} {kinds : List String}
    (h : Writes pattern kinds) (hsome : kinds ≠ [])
    (hplain : ∀ kind ∈ kinds, isPlain kind.toList = true)
    (hknown : ∀ kind ∈ kinds, kind ∈ language.vocabulary.kinds) :
    ∃ compiled, compilePattern language pattern = .ok compiled := by
  have hnames : ∀ kind ∈ kinds, Names language.vocabulary kind.toList := by
    intro kind hkind
    refine ⟨hplain kind hkind, ?_⟩
    rw [String.ofList_toList]
    exact hknown kind hkind
  obtain h | h := h
  · refine compilePattern_choice (mt List.map_eq_nil_iff.mp hsome) ?_ h
    intro name hname
    obtain ⟨kind, hkind, rfl⟩ := List.mem_map.mp hname
    exact hnames kind hkind
  · obtain ⟨kind, hkinds, heq⟩ := List.map_eq_singleton_iff.mp h
    refine compilePattern_kind (hnames kind ?_) heq.symm
    rw [hkinds]
    exact List.mem_singleton_self kind

namespace Tables

/-- The kinds that the base patterns of a language name, pattern by pattern. -/
def baseKinds : Language → List (List String)
  | .rust => [
    ["line_comment", "block_comment"],
    ["string_literal", "raw_string_literal", "char_literal"],
    ["integer_literal", "float_literal", "boolean_literal"]]
  | .python => [["comment"], ["string"], ["integer", "float", "true", "false", "none"]]
  | .json => [["string"], ["number", "true", "false", "null"]]
  | _ => [["comment"], ["string", "template_string"], ["number", "true", "false", "null"]]

/-- Every base pattern is written with the kinds that are listed for it. -/
theorem writes_basePatterns (language : Language) :
    ∀ group ∈ basePatterns language, ∀ pattern ∈ group.2,
      ∃ kinds ∈ baseKinds language, Writes pattern kinds := by
  cases language
  all_goals decide

/-- The kinds of base patterns have plain names. -/
theorem plain_of_mem_baseKinds (language : Language) :
    ∀ kinds ∈ baseKinds language, kinds ≠ [] ∧ ∀ kind ∈ kinds, isPlain kind.toList = true := by
  cases language
  all_goals decide

/-- Every language knows the kinds that its base patterns name: comments are extras, and the rest stands
in the form of one of a few definitions. -/
theorem known_of_mem_baseKinds (language : Language) :
    ∀ kinds ∈ baseKinds language, ∀ kind ∈ kinds, kind ∈ language.vocabulary.kinds := by
  have hoffers : ∀ kinds ∈ baseKinds language, ∀ kind ∈ kinds, language.grammar.offers
      ["_literal", "_value", "primary_expression", "string", "template_string"] kind = true := by
    cases language
    all_goals decide +kernel
  have hvocabulary : language.vocabulary = language.grammar.vocabulary := by
    cases language
    all_goals rfl
  intro kinds hkinds kind hkind
  rw [hvocabulary]
  exact Grammar.mem_kinds_of_offers (hoffers kinds hkinds kind hkind)

/-- Every base pattern compiles for its language. -/
theorem exists_compiled_of_mem_basePatterns {language : Language} {group : String × List String}
    (hgroup : group ∈ basePatterns language) {pattern : String} (hpattern : pattern ∈ group.2) :
    ∃ compiled, compilePattern language pattern = .ok compiled := by
  obtain ⟨kinds, hkinds, hwrites⟩ := writes_basePatterns language group hgroup pattern hpattern
  obtain ⟨hsome, hplain⟩ := plain_of_mem_baseKinds language kinds hkinds
  exact hwrites.exists_compiled hsome hplain (known_of_mem_baseKinds language kinds hkinds)

/-- Groups of patterns that compile one by one compile together. -/
theorem exists_compileGroups {compiler : Compiler} {language : Language}
    {groups : List (String × List String)}
    (h : ∀ group ∈ groups, ∀ pattern ∈ group.2, ∃ compiled, compiler language pattern = .ok compiled)
    (supply : Supply) :
    ∃ set after, compileGroups compiler language supply groups = .ok (set, after) := by
  induction groups generalizing supply with
  | nil => exact ⟨.empty, supply, rfl⟩
  | cons group rest ih =>
    obtain ⟨feature, patterns⟩ := group
    obtain ⟨set, middle, hset, -⟩ | ⟨entry, fault, hfirst, -⟩ :=
      RuleSet.compile_cases compiler language ⟨feature⟩ ⟨feature⟩ supply (plain patterns)
    · obtain ⟨more, after, hmore⟩ :=
        ih (fun group hgroup => h group (List.mem_cons_of_mem _ hgroup)) middle
      refine ⟨set.concat more, after, ?_⟩
      rw [compileGroups, hset]
      dsimp only
      rw [hmore]
    · obtain ⟨entry, hentry, hfails⟩ := hfirst.exists_not_compiles
      obtain ⟨pattern, hpattern, rfl⟩ := List.mem_map.mp hentry
      exact absurd (h _ List.mem_cons_self pattern hpattern) hfails

/-- The base rules of every language compile. -/
theorem exists_baseRules (supply : Supply) (language : Language) :
    ∃ set after, baseRules supply language = .ok (set, after) :=
  exists_compileGroups (fun _ hgroup _ hpattern =>
    exists_compiled_of_mem_basePatterns hgroup hpattern) supply

end Tables

end Dimming
