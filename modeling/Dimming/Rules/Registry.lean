import Dimming.Rules.Tables

/-!
# Overlay registries

A registry gives each language its overlay rules, if it has any. A look-up is exact: a language never
falls back to another one.
-/

set_option autoImplicit false

namespace Dimming

/-- The overlay rules of languages. -/
structure Registry where
  sets : List (Language × Shared RuleSet)

namespace Registry

/-- The registry without languages. -/
def empty : Registry := ⟨[]⟩

/-- The overlay of a language, if it is registered. -/
def lookup (registry : Registry) (language : Language) : Option (Shared RuleSet) :=
  (registry.sets.find? (fun entry => decide (entry.1 = language))).map (·.2)

/-- Registers a rule set in place of the one the language had. -/
def insert (registry : Registry) (language : Language) (rules : Shared RuleSet) : Registry :=
  ⟨registry.sets.filter (fun entry => decide (entry.1 ≠ language)) ++ [(language, rules)]⟩

/-- The registered languages, in declaration order. -/
def languages (registry : Registry) : List Language :=
  Language.all.filter (fun language => (registry.lookup language).isSome)

/-- The number of registered languages. -/
def size (registry : Registry) : Nat := registry.sets.length

/-- No language is registered. -/
def isEmpty (registry : Registry) : Bool := registry.sets.isEmpty

/-- Registers one table after the other; fails with the first entry that does not compile. -/
def addTables (compiler : Compiler) (feature : Feature) (default : Style) :
    Supply → Registry → List (Language × List Entry) → Except LanguageError (Registry × Supply)
  | supply, registry, [] => .ok (registry, supply)
  | supply, registry, (language, entries) :: rest =>
    match RuleSet.compile compiler language feature default supply entries with
    | .error cause => .error cause
    | .ok (set, supply) =>
      let (shared, supply) := supply.share set
      addTables compiler feature default supply (registry.insert language shared) rest

/-- The registry of some tables, each for a language. -/
def ofTables (compiler : Compiler) (feature : Feature) (default : Style) (supply : Supply)
    (tables : List (Language × List Entry)) : Except LanguageError (Registry × Supply) :=
  addTables compiler feature default supply empty tables

/-- The built-in tables for the languages of the built-in map. -/
def builtinTables : List (Language × List Entry) :=
  Tables.languageMap.filterMap fun (language, name) =>
    (Tables.overlays.find? (fun table => table.name == name)).map
      (fun table => (language, table.entries))

/-- The built-in registry. -/
def builtin (supply : Supply) : Except LanguageError (Registry × Supply) :=
  ofTables compilePattern .overlay .deemphasis supply builtinTables

end Registry

end Dimming
