import Dimming.Proofs.Languages.Listed
import Dimming.Proofs.Rules.Compiled
import Dimming.Proofs.Settings.Ordered

/-!
# Which rule set serves which language

The settings say for languages which rule set serves them, and for rule sets which entries they have; for all
else the built-in map and the built-in tables stand. A name of no language and a rule set that is missing are
found in order, and the first one is the reason for a failure.
-/

set_option autoImplicit false

namespace Dimming

/-- Either all members of a list are taken through, one for one, or the first one that is not is the reason
for a failure. -/
theorem mapM_cases {α β ε : Type} (f : α → Except ε β) (items : List α) :
    (∃ results, items.mapM f = .ok results ∧
      List.Forall₂ (fun item result => f item = .ok result) items results) ∨
    ∃ before item later cause, items = before ++ item :: later ∧
      (∀ other ∈ before, ∃ result, f other = .ok result) ∧ f item = .error cause ∧
      items.mapM f = .error cause := by
  induction items with
  | nil => exact Or.inl ⟨[], rfl, .nil⟩
  | cons first rest ih =>
    rw [List.mapM_cons]
    cases hfirst : f first with
    | error cause => exact Or.inr ⟨[], first, rest, cause, rfl, nofun, hfirst, rfl⟩
    | ok result =>
      rcases ih with ⟨results, hrest, hall⟩ | ⟨before, item, later, cause, rfl, hbefore, hitem, hrest⟩
      · rw [hrest]
        exact Or.inl ⟨result :: results, rfl, .cons hfirst hall⟩
      · rw [hrest]
        refine Or.inr ⟨first :: before, item, later, cause, rfl, fun other hother => ?_, hitem, rfl⟩
        rcases List.mem_cons.mp hother with rfl | hother
        · exact ⟨result, hfirst⟩
        · exact hbefore other hother

/-- Members that are taken through in the same way give the same results. -/
theorem mapM_congr {α β ε : Type} {f g : α → Except ε β} {items : List α}
    (h : ∀ item ∈ items, f item = g item) : items.mapM f = items.mapM g := by
  induction items with
  | nil => rfl
  | cons first rest ih =>
    rw [List.mapM_cons, List.mapM_cons, h first List.mem_cons_self,
      ih fun item hitem => h item (List.mem_cons_of_mem first hitem)]

namespace Config

/-- The rule set that serves a language: the one that the settings name for it, or else the built-in one. -/
def setOf? (config : Config) (language : Language) : Option String :=
  (config.languages.lookup language.name).or (Tables.languageMap.lookup language)

/-- The entries of a rule set: those that the settings list under its name, or else those of the built-in
table of that name. -/
def entriesIn? (config : Config) (name : String) : Option (List Entry) :=
  (config.ruleSets.lookup name).or
    ((Tables.overlays.map fun table => (table.name, table.entries)).lookup name)

/-- The languages that are served, in declaration order, each with the rule set that serves it. -/
def served (config : Config) : List (Language × String) :=
  Language.all.filterMap fun language => (config.setOf? language).map (language, ·)

variable {config : Config}

/-- The entries that a registry is built from are those of the rule set. -/
theorem entriesOf?_eq_entriesIn? (config : Config) (name : String) :
    config.entriesOf? name = config.entriesIn? name := by
  have hlisted : config.ruleSets.find? (fun set => set.1 == name) =
      (config.ruleSets.lookup name).map (name, ·) := find?_eq_lookup config.ruleSets name
  have hbuiltIn : (Tables.overlays.find? (fun table => table.name == name)).map (·.entries) =
      (Tables.overlays.map fun table => (table.name, table.entries)).lookup name := by
    induction Tables.overlays with
    | nil => rfl
    | cons first rest ih =>
      rw [List.find?_cons, List.map_cons, List.lookup_cons, BEq.comm]
      cases name == first.name with
      | true => rfl
      | false => exact ih
  rw [entriesOf?, entriesIn?, hlisted, hbuiltIn]
  cases config.ruleSets.lookup name <;> rfl

/-- A language is served by the rule set that the settings give it. -/
theorem mem_served {language : Language} {name : String} :
    (language, name) ∈ config.served ↔ config.setOf? language = some name := by
  simp [served, List.mem_filterMap, Language.mem_all]

/-- The languages that are served are listed by their ranks. -/
theorem pairwise_served : config.served.Pairwise (fun a b => a.1.rank < b.1.rank) := by
  refine List.Pairwise.filterMap _ (fun a b hless first hfirst second hsecond => ?_) Language.pairwise_all
  obtain ⟨-, -, rfl⟩ := Option.map_eq_some_iff.mp hfirst
  obtain ⟨-, -, rfl⟩ := Option.map_eq_some_iff.mp hsecond
  exact hless

/-- The tables of the languages that are served, as far as their rule sets are there. -/
def stocked (config : Config) : List (Language × List Entry) :=
  config.served.filterMap fun item => (config.entriesIn? item.2).map (item.1, ·)

/-- A language has a table when it is served and its rule set is there. -/
theorem mem_stocked {language : Language} {entries : List Entry} :
    (language, entries) ∈ config.stocked ↔
      ∃ name, config.setOf? language = some name ∧ config.entriesIn? name = some entries := by
  rw [stocked, List.mem_filterMap]
  constructor
  · rintro ⟨⟨other, name⟩, hserved, htable⟩
    obtain ⟨found, hentries, hsame⟩ := Option.map_eq_some_iff.mp htable
    cases hsame
    exact ⟨name, mem_served.mp hserved, hentries⟩
  · rintro ⟨name, hserved, hentries⟩
    exact ⟨(language, name), mem_served.mpr hserved, by simp [hentries]⟩

/-- The tables are listed by the ranks of their languages. -/
theorem pairwise_stocked : config.stocked.Pairwise (fun a b => a.1.rank < b.1.rank) := by
  refine List.Pairwise.filterMap _ (fun a b hless first hfirst second hsecond => ?_) pairwise_served
  obtain ⟨-, -, rfl⟩ := Option.map_eq_some_iff.mp hfirst
  obtain ⟨-, -, rfl⟩ := Option.map_eq_some_iff.mp hsecond
  exact hless

/-! ## Names of languages -/

/-- What is put in place for a language is found for it, and for no other one. -/
theorem lookup_of_replaced {α : Type} (mapping : List (Language × α)) (language other : Language)
    (value : α) :
    (mapping.filter (fun entry => decide (entry.1 ≠ language)) ++ [(language, value)]).lookup other =
      if other = language then some value else mapping.lookup other := by
  have hlookup : ∀ mapping : List (Language × α), mapping.lookup other =
      (mapping.find? (fun entry => decide (entry.1 = other))).map (·.2) := by
    intro mapping
    rw [find?_eq_lookup]
    cases mapping.lookup other <;> rfl
  rw [hlookup, hlookup, List.find?_append, Registry.find?_of_removed]
  by_cases h : other = language
  · simp [h]
  · simp [h, Ne.symm h]

/-- Settings of different names change the map where they name a language, unless one of them names none. -/
theorem mapLanguages_cases (mapping : List (Language × String)) (settings : List (String × String))
    (hdistinct : (settings.map (·.1)).Nodup) :
    (∃ after, mapLanguages mapping settings = .ok after ∧
      (∀ setting ∈ settings, ∃ language : Language, language.name = setting.1) ∧
      ∀ language, after.lookup language =
        (settings.lookup language.name).or (mapping.lookup language)) ∨
    ∃ before setting later, settings = before ++ setting :: later ∧
      (∀ other ∈ before, ∃ language : Language, language.name = other.1) ∧
      (∀ language : Language, language.name ≠ setting.1) ∧
      mapLanguages mapping settings = .error (.unknownLanguage setting.1) := by
  induction settings generalizing mapping with
  | nil => exact Or.inl ⟨mapping, rfl, nofun, fun _ => rfl⟩
  | cons first rest ih =>
    obtain ⟨text, name⟩ := first
    rw [List.map_cons, List.nodup_cons] at hdistinct
    obtain ⟨hnew, hdistinct⟩ := hdistinct
    rw [mapLanguages]
    cases htext : Language.ofName? text with
    | none => exact Or.inr ⟨[], (text, name), rest, rfl, nofun, Language.ofName?_eq_none.mp htext, rfl⟩
    | some language =>
      have hname : language.name = text := Language.ofName?_eq_some.mp htext
      dsimp only
      rcases ih (mapping.filter (fun entry => decide (entry.1 ≠ language)) ++ [(language, name)]) hdistinct with
        ⟨after, hafter, hknown, hlookup⟩ | ⟨before, setting, later, rfl, hbefore, hunknown, hafter⟩
      · refine Or.inl ⟨after, hafter, fun setting hsetting => ?_, fun other => ?_⟩
        · rcases List.mem_cons.mp hsetting with rfl | hsetting
          · exact ⟨language, hname⟩
          · exact hknown setting hsetting
        · rw [hlookup, lookup_of_replaced, List.lookup_cons]
          -- no other setting has this name, so none of the rest changes it again
          by_cases hother : other = language
          · have hrest : rest.lookup text = none := by
              rw [List.lookup_eq_none_iff]
              intro setting hsetting
              refine bne_iff_ne.mpr fun hsame => hnew ?_
              exact List.mem_map.mpr ⟨setting, hsetting, hsame.symm⟩
            subst hother
            simp [hname, hrest]
          · have hnames : other.name ≠ text := fun hsame =>
              hother (Language.name_injective (hsame.trans hname.symm))
            rw [if_neg hother, beq_false_of_ne hnames]
      · refine Or.inr ⟨(text, name) :: before, setting, later, rfl, fun other hother => ?_, hunknown, hafter⟩
        rcases List.mem_cons.mp hother with rfl | hother
        · exact ⟨language, hname⟩
        · exact hbefore other hother

/-- Every language that the settings name is one. -/
def NamesLanguages (config : Config) : Prop :=
  ∀ setting ∈ config.languages, ∃ language : Language, language.name = setting.1

/-- The map of languages is what serves them, unless a name is none of a language. -/
theorem mapping_cases (h : config.Ordered) :
    (config.mapping = .ok config.served ∧ config.NamesLanguages) ∨
    ∃ before setting later, config.languages = before ++ setting :: later ∧
      (∀ other ∈ before, ∃ language : Language, language.name = other.1) ∧
      (∀ language : Language, language.name ≠ setting.1) ∧
      config.mapping = .error (.unknownLanguage setting.1) := by
  unfold mapping
  rcases mapLanguages_cases Tables.languageMap config.languages h.languages.nodup with
    ⟨after, hafter, hknown, hlookup⟩ | ⟨before, setting, later, hsplit, hbefore, hunknown, hafter⟩
  · rw [hafter]
    refine Or.inl ⟨congrArg Except.ok ?_, hknown⟩
    refine List.filterMap_congr fun language _ => ?_
    rw [find?_eq_lookup, hlookup, setOf?]
  · rw [hafter]
    exact Or.inr ⟨before, setting, later, hsplit, hbefore, hunknown, rfl⟩

/-! ## Rule sets and entries -/

/-- The table of a language that a rule set serves. -/
def tableOf (config : Config) (item : Language × String) : Except ConfigError (Language × List Entry) :=
  match config.entriesIn? item.2 with
  | none => .error (.unknownRuleSet item.1 item.2)
  | some entries => .ok (item.1, entries)

/-- A table comes of the entries of the rule set. -/
theorem tableOf_eq_ok {item : Language × String} {table : Language × List Entry} :
    config.tableOf item = .ok table ↔ table.1 = item.1 ∧ config.entriesIn? item.2 = some table.2 := by
  unfold tableOf
  cases config.entriesIn? item.2 <;> simp [Prod.ext_iff, eq_comm]

/-- No table comes of a rule set that is missing. -/
theorem tableOf_eq_error {item : Language × String} {cause : ConfigError} :
    config.tableOf item = .error cause ↔
      config.entriesIn? item.2 = none ∧ cause = .unknownRuleSet item.1 item.2 := by
  unfold tableOf
  cases config.entriesIn? item.2 <;> simp [eq_comm]

/-- The tables are made one after the other, in the order of the languages. -/
theorem tables_eq_mapM (h : config.mapping = .ok config.served) :
    config.tables = config.served.mapM config.tableOf := by
  unfold tables
  rw [h]
  refine mapM_congr fun item _ => ?_
  exact congrArg (fun found : Option (List Entry) => match found with
      | none => Except.error (ConfigError.unknownRuleSet item.1 item.2)
      | some entries => Except.ok (item.1, entries))
    (entriesOf?_eq_entriesIn? config item.2)

/-- The tables are those of the rule sets that serve languages, unless such a rule set is not there. -/
theorem tables_cases (h : config.mapping = .ok config.served) :
    (config.tables = .ok config.stocked ∧
      ∀ item ∈ config.served, ∃ entries, config.entriesIn? item.2 = some entries) ∨
    ∃ before language name later, config.served = before ++ (language, name) :: later ∧
      (∀ other ∈ before, ∃ entries, config.entriesIn? other.2 = some entries) ∧
      config.entriesIn? name = none ∧
      config.tables = .error (.unknownRuleSet language name) := by
  rw [tables_eq_mapM h]
  rcases mapM_cases config.tableOf config.served with
    ⟨tables, hok, hall⟩ | ⟨before, ⟨language, name⟩, later, cause, hsplit, hbefore, hitem, herror⟩
  · have hsame : ∀ {mapping tables}, List.Forall₂ (fun item table => config.tableOf item = .ok table)
        mapping tables →
        mapping.filterMap (fun item => (config.entriesIn? item.2).map (item.1, ·)) = tables ∧
        ∀ item ∈ mapping, ∃ entries, config.entriesIn? item.2 = some entries := by
      intro mapping tables hall
      induction hall with
      | nil => exact ⟨rfl, nofun⟩
      | cons hfirst _ ih =>
        obtain ⟨hlanguage, hentries⟩ := tableOf_eq_ok.mp hfirst
        refine ⟨?_, List.forall_mem_cons.mpr ⟨⟨_, hentries⟩, ih.2⟩⟩
        rw [List.filterMap_cons, hentries, ih.1, ← hlanguage]
        rfl
    obtain ⟨hstocked, hfound⟩ := hsame hall
    exact Or.inl ⟨hok.trans (congrArg Except.ok hstocked.symm), hfound⟩
  · obtain ⟨hmissing, rfl⟩ := tableOf_eq_error.mp hitem
    refine Or.inr ⟨before, language, name, later, hsplit, fun other hother => ?_, hmissing, herror⟩
    obtain ⟨table, htable⟩ := hbefore other hother
    exact ⟨table.2, (tableOf_eq_ok.mp htable).2⟩

end Config

end Dimming
