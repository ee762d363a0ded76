import Dimming.Proofs.Rules.Compiled

/-!
# What is built from entries and tables

Entries are compiled one after the other. Either all of them compile, and then each rule stems from the
entry at its place, or the first entry that does not compile is the reason why there is no rule at all. A
registry is built from tables in the same way: it gives every language of the tables what was compiled for
it, or it fails for the first entry of the first table that has such an entry.
-/

set_option autoImplicit false

namespace Dimming

/-- What is there when failures are left aside came of a success. -/
theorem eq_ok_of_toOption {ε α : Type} {result : Except ε α} {value : α}
    (h : result.toOption = some value) : result = .ok value := by
  cases result with
  | error cause => cases h
  | ok found => rw [Option.some.inj h]

/-- A compiler takes the pattern of an entry. -/
def Compiles (compiler : Compiler) (language : Language) (entry : Entry) : Prop :=
  ∃ compiled, compiler language entry.pattern = .ok compiled

/-- A rule is an entry compiled for a language: its pattern word for word, its own style or else the
default one. -/
structure StemsFrom (compiler : Compiler) (language : Language) (feature : Feature) (default : Style)
    (entry : Entry) (rule : Rule) : Prop where
  pattern_eq : rule.pattern = entry.pattern
  style_eq : rule.style = (entry.style.map Style.mk).getD default
  feature_eq : rule.feature = feature
  language_eq : rule.language = language
  compiled_eq : compiler language entry.pattern = .ok rule.compiled

/-- The patterns and the names of the styles of rules are those of the entries that they stem from. -/
theorem StemsFrom.map_eq {compiler : Compiler} {language : Language} {feature : Feature} {default : Style}
    {entries : List Entry} {rules : List Rule}
    (h : List.Forall₂ (StemsFrom compiler language feature default) entries rules) :
    rules.map (fun rule => (rule.pattern, rule.style.name)) =
      entries.map (fun entry => (entry.pattern, entry.style.getD default.name)) := by
  induction h with
  | nil => rfl
  | @cons entry rule _ _ hfirst _ ih =>
    have hstyle : rule.style.name = entry.style.getD default.name := by
      rw [hfirst.style_eq]
      cases entry.style <;> rfl
    rw [List.map_cons, List.map_cons, ih, hfirst.pattern_eq, hstyle]

/-- The first entry of a list that does not compile, with the fault that was found in it. -/
def FirstFault (compiler : Compiler) (language : Language) (entries : List Entry) (entry : Entry)
    (fault : RuleFault) : Prop :=
  ∃ before later, entries = before ++ entry :: later ∧
    (∀ other ∈ before, Compiles compiler language other) ∧
    compiler language entry.pattern = .error fault

/-- What fails to compile does not compile. -/
theorem not_compiles_of_error {compiler : Compiler} {language : Language} {entry : Entry}
    {fault : RuleFault} (h : compiler language entry.pattern = .error fault) :
    ¬ Compiles compiler language entry := by
  rintro ⟨compiled, hcompiled⟩
  cases h.symm.trans hcompiled

namespace FirstFault

variable {compiler : Compiler} {language : Language} {entries : List Entry} {entry : Entry}
  {fault : RuleFault}

/-- A list with a first fault does not compile as a whole. -/
theorem exists_not_compiles (h : FirstFault compiler language entries entry fault) :
    ∃ entry ∈ entries, ¬ Compiles compiler language entry := by
  obtain ⟨before, later, rfl, -, hfault⟩ := h
  exact ⟨entry, by simp, not_compiles_of_error hfault⟩

/-- There is one first fault at most. -/
theorem unique (h : FirstFault compiler language entries entry fault) {other : Entry}
    {otherFault : RuleFault} (hother : FirstFault compiler language entries other otherFault) :
    other = entry ∧ otherFault = fault := by
  obtain ⟨before, later, rfl, hbefore, hfault⟩ := h
  obtain ⟨others, rest, hsame, hothers, hotherFault⟩ := hother
  induction before generalizing others with
  | nil =>
    cases others with
    | nil =>
      obtain ⟨rfl, -⟩ := List.cons.inj hsame
      exact ⟨rfl, Except.error.inj (hotherFault.symm.trans hfault)⟩
    | cons first others =>
      obtain ⟨rfl, -⟩ := List.cons.inj hsame
      exact absurd (hothers entry List.mem_cons_self) (not_compiles_of_error hfault)
  | cons first before ih =>
    cases others with
    | nil =>
      obtain ⟨rfl, -⟩ := List.cons.inj hsame
      exact absurd (hbefore first List.mem_cons_self) (not_compiles_of_error hotherFault)
    | cons second others =>
      obtain ⟨-, hrest⟩ := List.cons.inj hsame
      exact ih (fun entry hmem => hbefore entry (List.mem_cons_of_mem first hmem)) others hrest
        (fun entry hmem => hothers entry (List.mem_cons_of_mem second hmem))

end FirstFault

section Compile

variable (compiler : Compiler) (language : Language) (feature : Feature) (default : Style)

/-- An entry gives a rule that stems from it, or its pattern is the reason why not. -/
theorem Rule.compile_cases (supply : Supply) (entry : Entry) :
    (∃ rule after, Rule.compile compiler supply language feature default entry = .ok (rule, after) ∧
      StemsFrom compiler language feature default entry rule) ∨
    ∃ fault, compiler language entry.pattern = .error fault ∧
      Rule.compile compiler supply language feature default entry =
        .error (.invalidPattern language entry.pattern fault) := by
  unfold Rule.compile
  cases hcompiler : compiler language entry.pattern with
  | error fault => exact Or.inr ⟨fault, rfl, rfl⟩
  | ok compiled =>
    refine Or.inl ⟨_, _, rfl, rfl, ?_, rfl, rfl, hcompiler⟩
    cases entry.style <;> rfl

/-- Entries are compiled one for one, or the first one that does not compile is the reason for a failure. -/
theorem RuleSet.compile_cases (supply : Supply) (entries : List Entry) :
    (∃ set after, RuleSet.compile compiler language feature default supply entries = .ok (set, after) ∧
      List.Forall₂ (StemsFrom compiler language feature default) entries set.rules) ∨
    ∃ entry fault, FirstFault compiler language entries entry fault ∧
      RuleSet.compile compiler language feature default supply entries =
        .error (.invalidPattern language entry.pattern fault) := by
  induction entries generalizing supply with
  | nil => exact Or.inl ⟨.empty, supply, rfl, .nil⟩
  | cons first rest ih =>
    rw [RuleSet.compile]
    rcases Rule.compile_cases compiler language feature default supply first with
      ⟨rule, middle, hrule, hstems⟩ | ⟨fault, hfault, hrule⟩
    · rw [hrule]
      dsimp only
      rcases ih middle with ⟨set, after, hset, hall⟩ | ⟨entry, fault, hfirst, hset⟩
      · rw [hset]
        exact Or.inl ⟨⟨rule :: set.rules⟩, after, rfl, .cons hstems hall⟩
      -- the first fault of the rest is the first of all, as the entry in front of it compiles
      · obtain ⟨before, later, rfl, hbefore, hfault⟩ := hfirst
        rw [hset]
        refine Or.inr ⟨entry, fault, ⟨first :: before, later, rfl, ?_, hfault⟩, rfl⟩
        intro other hother
        rcases List.mem_cons.mp hother with rfl | hother
        · exact ⟨rule.compiled, hstems.compiled_eq⟩
        · exact hbefore other hother
    · rw [hrule]
      exact Or.inr ⟨first, fault, ⟨[], rest, rfl, List.forall_mem_nil _, hfault⟩, rfl⟩

end Compile

/-- Entries that rules stem from compile. -/
theorem compiles_of_stemsFrom {compiler : Compiler} {language : Language} {feature : Feature}
    {default : Style} {entries : List Entry} {rules : List Rule}
    (h : List.Forall₂ (StemsFrom compiler language feature default) entries rules) :
    ∀ entry ∈ entries, Compiles compiler language entry := by
  induction h with
  | nil => exact nofun
  | cons hstems _ ih =>
    intro entry hentry
    rcases List.mem_cons.mp hentry with rfl | hentry
    · exact ⟨_, hstems.compiled_eq⟩
    · exact ih entry hentry

namespace Registry

section Tables

variable (compiler : Compiler) (feature : Feature) (default : Style)

/-- A registry has what some tables say: for each of their languages the rules of its entries, and for all
others what another registry has. -/
structure Holds (former : Registry) (tables : List (Language × List Entry)) (registry : Registry) :
    Prop where
  told : ∀ table ∈ tables, ∃ rules, registry.lookup table.1 = some rules ∧
    List.Forall₂ (StemsFrom compiler table.1 feature default) table.2 rules.value.rules
  untold : ∀ language, language ∉ tables.map (·.1) →
    registry.lookup language = former.lookup language

/-- Tables of different languages are all registered, or the first entry that does not compile, in the first
table that has one, is the reason for a failure. -/
theorem addTables_cases (supply : Supply) (former : Registry) (tables : List (Language × List Entry))
    (hdistinct : (tables.map (·.1)).Nodup) :
    (∃ registry after, addTables compiler feature default supply former tables = .ok (registry, after) ∧
      Holds compiler feature default former tables registry) ∨
    ∃ before language entries later entry fault, tables = before ++ (language, entries) :: later ∧
      (∀ table ∈ before, ∀ entry ∈ table.2, Compiles compiler table.1 entry) ∧
      FirstFault compiler language entries entry fault ∧
      addTables compiler feature default supply former tables =
        .error (.invalidPattern language entry.pattern fault) := by
  induction tables generalizing supply former with
  | nil => exact Or.inl ⟨former, supply, rfl, List.forall_mem_nil _, fun _ _ => rfl⟩
  | cons table rest ih =>
    obtain ⟨language, entries⟩ := table
    rw [List.map_cons, List.nodup_cons] at hdistinct
    obtain ⟨hnew, hdistinct⟩ := hdistinct
    rw [addTables]
    rcases RuleSet.compile_cases compiler language feature default supply entries with
      ⟨set, middle, hset, hstems⟩ | ⟨entry, fault, hfirst, hset⟩
    · rw [hset]
      dsimp only
      rcases ih (middle.share set).2 (former.insert language (middle.share set).1) hdistinct with
        ⟨registry, after, hadd, hholds⟩ |
        ⟨before, other, others, later, entry, fault, rfl, hbefore, hfirst, hadd⟩
      · refine Or.inl ⟨registry, after, hadd, ?_, ?_⟩
        · intro table htable
          rcases List.mem_cons.mp htable with rfl | htable
          -- no later table is for this language, so its rules stay
          · refine ⟨(middle.share set).1, ?_, hstems⟩
            rw [hholds.untold language hnew, lookup_insert, if_pos rfl]
          · exact hholds.told table htable
        · intro other hother
          rw [List.map_cons, List.mem_cons, not_or] at hother
          rw [hholds.untold other hother.2, lookup_insert, if_neg hother.1]
      · refine Or.inr ⟨(language, entries) :: before, other, others, later, entry, fault, rfl, ?_, hfirst,
          hadd⟩
        intro table htable
        rcases List.mem_cons.mp htable with rfl | htable
        · exact compiles_of_stemsFrom hstems
        · exact hbefore table htable
    · rw [hset]
      exact Or.inr ⟨[], language, entries, rest, entry, fault, rfl, List.forall_mem_nil _, hfirst, rfl⟩

end Tables

end Registry

end Dimming
