import Dimming.Disk
import Dimming.Rules.Registry
import Dimming.Toml.Read
import Dimming.Toml.Write

/-!
# Configuration

Settings for highlighting and for the overlay. A configuration text names only what it changes; all
else keeps its default. Which overlay serves which language is checked when the registry is built, not
when the text is read.
-/

set_option autoImplicit false

namespace Dimming

/-- Why something about the configuration failed. -/
inductive ConfigError where
  | disk (cause : DiskError)
  | unreadable
  | unwritable
  | unknownLanguage (name : String)
  | unknownRuleSet (language : Language) (name : String)
  | rules (cause : LanguageError)
  deriving DecidableEq, Repr

/-- The wording of a configuration error. -/
def ConfigError.message : ConfigError → String
  | .disk cause => "IO error: " ++ cause.message
  | .unreadable => "Parse error"
  | .unwritable => "Serialize error"
  | .unknownLanguage name => "Unknown language in overlay.languages: " ++ name
  | .unknownRuleSet language name =>
    "No rule set named '" ++ name ++ "' (mapped from " ++ language.name ++ ")"
  | .rules cause => cause.message

/-- The settings. -/
structure Config where
  /-- How many feature tiers are enabled. -/
  level : Nat
  /-- The feature that overlay rules are tagged with. -/
  feature : String
  /-- The style of overlay entries that name none. -/
  defaultStyle : String
  /-- What the status line shows while the overlay is on. -/
  lighter : String
  /-- New documents start with the overlay on. -/
  enableByDefault : Bool
  /-- The rule sets of languages by their names, sorted by language name. -/
  languages : List (String × String)
  /-- Named lists of entries, sorted by name. -/
  ruleSets : List (String × List Entry)
  deriving DecidableEq, Repr

namespace Config

/-- The settings without a configuration text. -/
def default : Config :=
  ⟨3, Feature.overlay.name, Style.deemphasis.name, " Recede", false, [], []⟩

instance : Inhabited Config := ⟨default⟩

/-- Puts a value under a key into a list that is sorted by keys, in place of an older one. -/
def insertSorted {α : Type} (key : String) (value : α) : List (String × α) → List (String × α)
  | [] => [(key, value)]
  | (other, old) :: rest =>
    if key < other then (key, value) :: (other, old) :: rest
    else if key = other then (key, value) :: rest
    else (other, old) :: insertSorted key value rest

/-! ## Reading -/

/-- A field of a record, which may also be written as a list of its fields in order. -/
def slot? (record : Toml) (key : String) (index : Nat) : Option (Option Toml) :=
  match record with
  | .table _ entries => some (Toml.find? entries key)
  | .list items => some items[index]?
  | .blocks items => some ((items[index]?).map (.table .header))
  | .date _ => some none
  | _ => none

/-- Reads a field with a default. -/
def field {α : Type} (record : Toml) (key : String) (index : Nat) (standard : α)
    (decode : Toml → Option α) : Option α :=
  match slot? record key index with
  | none => none
  | some none => some standard
  | some (some value) => decode value

/-- Reads a text. -/
def decodeText : Toml → Option String
  | .text value => some value
  | _ => none

/-- Reads a truth value. -/
def decodeFlag : Toml → Option Bool
  | .flag value => some value
  | _ => none

/-- Reads a number that is not negative. -/
def decodeCount : Toml → Option Nat
  | .whole value => if 0 ≤ value then some value.toNat else none
  | _ => none

/-- Reads an entry: a pattern and perhaps a style. -/
def decodeEntry (record : Toml) : Option Entry :=
  match slot? record "pattern" 0 with
  | some (some pattern) => do
    let pattern ← decodeText pattern
    let style ← field record "style" 1 none (fun value => (decodeText value).map some)
    return ⟨pattern, style⟩
  | _ => none

/-- Reads a list of entries. -/
def decodeEntries : Toml → Option (List Entry)
  | .list items => items.mapM decodeEntry
  | .blocks items => items.mapM (fun entries => decodeEntry (.table .header entries))
  | _ => none

/-- Reads a table whose values are all of one sort, sorted by key. -/
def decodeMap {α : Type} (decode : Toml → Option α) : Toml → Option (List (String × α))
  | .table _ entries =>
    entries.foldl
      (fun done entry => do
        let done ← done
        let value ← decode entry.2
        return insertSorted entry.1 value done)
      (some [])
  | _ => none

/-- Reads the settings from the entries of a configuration text; unknown keys are left alone. -/
def decode (entries : List (String × Toml)) : Option Config := do
  let top := Toml.table .header entries
  let none_ := Toml.table .header []
  let highlight ← field top "highlight" 0 none_ some
  let overlay ← field top "overlay" 1 none_ some
  let level ← field highlight "level" 0 default.level decodeCount
  let feature ← field overlay "feature" 0 default.feature decodeText
  let defaultStyle ← field overlay "default_style" 1 default.defaultStyle decodeText
  let lighter ← field overlay "lighter" 2 default.lighter decodeText
  let enableByDefault ← field overlay "enable_by_default" 3 default.enableByDefault decodeFlag
  let languages ← field overlay "languages" 4 [] (decodeMap decodeText)
  let ruleSets ← field overlay "rule_sets" 5 [] (decodeMap decodeEntries)
  return { level, feature, defaultStyle, lighter, enableByDefault, languages, ruleSets }

/-- Reads the settings from a text. -/
def ofText (text : String) : Option Config :=
  (TomlText.read text).bind decode

/-- Reads the settings from a file. -/
def loadFrom (disk : Disk) (path : String) : Except ConfigError Config :=
  match disk.read path with
  | .error cause => .error (.disk cause)
  | .ok text =>
    match ofText text with
    | none => .error .unreadable
    | some config => .ok config

/-- Where the user's settings lie below the directory of all configurations. -/
def defaultPath (home : String) : String :=
  Path.join (Path.join home "recede") "config.toml"

/-- The user's settings, or the default ones where those cannot be read. -/
def load (disk : Disk) (home : String) : Config :=
  match loadFrom disk (defaultPath home) with
  | .ok config => config
  | .error _ => default

/-! ## Writing -/

/-- The lines of an entry. -/
def entryText (entry : Entry) : String :=
  let pattern := TomlText.writeLine "pattern" (TomlText.writeText entry.pattern)
  match entry.style with
  | none => pattern
  | some style => pattern ++ TomlText.writeLine "style" (TomlText.writeText style)

/-- The blocks of a named list of entries. -/
def ruleSetText (name : String) (entries : List Entry) : String :=
  String.join (entries.map fun entry =>
    "\n[[overlay.rule_sets." ++ TomlText.writeKey name ++ "]]\n" ++ entryText entry)

/-- The text of the settings. Lists without entries are values of the table of rule sets, and that
table has no header when it has entries and all of them are blocks. -/
def render (config : Config) : String :=
  let hollow := config.ruleSets.filter (fun set => set.2.isEmpty)
  let bare := config.ruleSets.isEmpty || !hollow.isEmpty
  "[highlight]\n"
    ++ TomlText.writeLine "level" (toString config.level)
    ++ "\n[overlay]\n"
    ++ TomlText.writeLine "feature" (TomlText.writeText config.feature)
    ++ TomlText.writeLine "default_style" (TomlText.writeText config.defaultStyle)
    ++ TomlText.writeLine "lighter" (TomlText.writeText config.lighter)
    ++ TomlText.writeLine "enable_by_default" (toString config.enableByDefault)
    ++ "\n[overlay.languages]\n"
    ++ String.join (config.languages.map fun (language, name) =>
      TomlText.writeLine language (TomlText.writeText name))
    ++ (if bare then "\n[overlay.rule_sets]\n" else "")
    ++ String.join (hollow.map fun set => TomlText.writeLine set.1 "[]")
    ++ String.join (config.ruleSets.map fun set => ruleSetText set.1 set.2)

/-- The text of the settings, unless the level is too large to be written. -/
def toText? (config : Config) : Option String :=
  if (config.level : Int) ≤ Toml.wholeRange.2 then some config.render else none

/-- Writes the settings to a file and makes the directories that its path leads through. Directories that
were made stay when the writing fails. -/
def saveOn (config : Config) (disk : Disk) (path : String) : Except ConfigError Unit × Disk :=
  match disk.makeParents path with
  | (.error cause, disk) => (.error (.disk cause), disk)
  | (.ok (), disk) =>
    match config.toText? with
    | none => (.error .unwritable, disk)
    | some text =>
      match disk.write path text with
      | .error cause => (.error (.disk cause), disk)
      | .ok disk => (.ok (), disk)

/-- The disk with the settings written to a file. -/
def saveTo (config : Config) (disk : Disk) (path : String) : Except ConfigError Disk :=
  match config.saveOn disk path with
  | (.error cause, _) => .error cause
  | (.ok (), disk) => .ok disk

/-- Writes the user's settings. -/
def save (config : Config) (disk : Disk) (home : String) : Except ConfigError Disk :=
  config.saveTo disk (defaultPath home)

/-! ## The registry of a configuration -/

/-- The entries of a name; those of the configuration come before the built-in ones. -/
def entriesOf? (config : Config) (name : String) : Option (List Entry) :=
  match config.ruleSets.find? (fun set => set.1 == name) with
  | some set => some set.2
  | none => (Tables.overlays.find? (fun table => table.name == name)).map (·.entries)

/-- Adds the language names of a configuration to the map of languages, one after the other. -/
def mapLanguages : List (Language × String) → List (String × String) →
    Except ConfigError (List (Language × String))
  | mapping, [] => .ok mapping
  | mapping, (text, name) :: rest =>
    match Language.ofName? text with
    | none => .error (.unknownLanguage text)
    | some language =>
      mapLanguages (mapping.filter (fun entry => decide (entry.1 ≠ language)) ++ [(language, name)])
        rest

/-- Which rule set serves which language, in declaration order of the languages. -/
def mapping (config : Config) : Except ConfigError (List (Language × String)) :=
  (mapLanguages Tables.languageMap config.languages).map fun mapping =>
    Language.all.filterMap fun language =>
      mapping.find? (fun entry => decide (entry.1 = language))

/-- The tables of a configuration, each with its language. -/
def tables (config : Config) : Except ConfigError (List (Language × List Entry)) :=
  match config.mapping with
  | .error cause => .error cause
  | .ok mapping =>
    mapping.mapM fun (language, name) =>
      match config.entriesOf? name with
      | none => .error (.unknownRuleSet language name)
      | some entries => .ok (language, entries)

/-- Builds the registry: names are checked first, then the patterns are compiled. -/
def buildRegistry (config : Config) (compiler : Compiler) (supply : Supply) :
    Except ConfigError (Registry × Supply) :=
  match config.tables with
  | .error cause => .error cause
  | .ok tables =>
    match Registry.ofTables compiler ⟨config.feature⟩ ⟨config.defaultStyle⟩ supply tables with
    | .error cause => .error (.rules cause)
    | .ok built => .ok built

end Config

end Dimming
