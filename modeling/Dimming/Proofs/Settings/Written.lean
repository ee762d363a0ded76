import Dimming.Proofs.Settings.Ordered
import Dimming.Proofs.Toml.Lines

/-!
# Settings as they are written

The text of some settings whose level is not too large is a sequence of lines: titles of tables and keys with
values. A rule set without entries is a value of its table, and one with entries is a sequence of blocks.
-/

set_option autoImplicit false

namespace Dimming

open TomlText

namespace Config

/-! ## Lines -/

def entryPairs (entry : Entry) : List Pair :=
  .ofText "pattern" entry.pattern ::
    match entry.style with
    | none => []
    | some style => [.ofText "style" style]

/-- The pairs that say which rule set serves which language. -/
def languagePairs (config : Config) : List Pair :=
  config.languages.map fun setting => .ofText setting.1 setting.2

/-- The pairs of the overlay that are no tables. -/
def overlayPairs (config : Config) : List Pair :=
  [.ofText "feature" config.feature, .ofText "default_style" config.defaultStyle,
    .ofText "lighter" config.lighter, .ofFlag "enable_by_default" config.enableByDefault]

def hollowSets (config : Config) : List (String × List Entry) :=
  config.ruleSets.filter fun set => set.2.isEmpty

def hollowPairs (config : Config) : List Pair := config.hollowSets.map fun set => .hollow set.1

def highlightTitle : Title := ⟨["highlight"], by decide, by decide⟩

def overlayTitle : Title := ⟨["overlay"], by decide, by decide⟩

def languagesTitle : Title := ⟨["overlay", "languages"], by decide, by decide⟩

def setsTitle : Title := ⟨["overlay", "rule_sets"], by decide, by decide⟩

def setTitle (name : String) : Title := ⟨["overlay", "rule_sets", name], by simp, by simp [depthLimit]⟩

/-- The lines of an entry of a rule set. -/
def blockLines (name : String) (entry : Entry) : List Line :=
  .gap :: .block (setTitle name) :: (entryPairs entry).map .pair

/-- The lines of a rule set with entries. -/
def setLines (set : String × List Entry) : List Line := set.2.flatMap (blockLines set.1)

/-- The lines that open a table behind others. -/
def titleLines (title : Title) : List Line := [.gap, .table title]

/-- The table of rule sets has a header of its own. -/
def bare (config : Config) : Bool := config.ruleSets.isEmpty || !config.hollowSets.isEmpty

variable (config : Config) (hlevel : (config.level : Int) ≤ Toml.wholeRange.2)

def headLines : List Line :=
  [.table highlightTitle, .pair (.ofCount "level" config.level hlevel)]
    ++ titleLines overlayTitle
    ++ config.overlayPairs.map .pair
    ++ titleLines languagesTitle
    ++ config.languagePairs.map .pair

def allLines : List Line :=
  config.headLines hlevel
    ++ (if config.bare then titleLines setsTitle else [])
    ++ config.hollowPairs.map .pair
    ++ config.ruleSets.flatMap setLines

/-! ## Their text -/

/-- The text of pairs is their lines one after the other. -/
theorem text_pairs (pairs : List Pair) :
    (pairs.map Line.pair).flatMap Line.text =
      pairs.flatMap fun pair => (writeLine pair.key pair.written).toList := by
  rw [List.flatMap_map]
  rfl

/-- The text of an entry is that of its pairs. -/
theorem toList_entryText (entry : Entry) :
    (entryText entry).toList = ((entryPairs entry).map Line.pair).flatMap Line.text := by
  rw [text_pairs, entryText, entryPairs]
  cases entry.style <;> simp [Pair.ofText]

/-- The text of a rule set is that of its lines. -/
theorem toList_ruleSetText (set : String × List Entry) :
    (ruleSetText set.1 set.2).toList = (setLines set).flatMap Line.text := by
  have hpath : writePath (setTitle set.1).path =
      "overlay.rule_sets.".toList ++ (writeKey set.1).toList := by
    rw [setTitle, writePath_cons_cons, writePath_cons_cons, writePath_singleton]
    rfl
  rw [ruleSetText, String.toList_join, setLines, List.flatMap_assoc, List.flatMap_map]
  congr 1
  funext entry
  simp [blockLines, Line.text, hpath, toList_entryText]

/-- The text of the first lines is that of all settings but the rule sets. -/
theorem text_headLines :
    (config.headLines hlevel).flatMap Line.text =
      ("[highlight]\n"
        ++ writeLine "level" (toString config.level)
        ++ "\n[overlay]\n"
        ++ writeLine "feature" (writeText config.feature)
        ++ writeLine "default_style" (writeText config.defaultStyle)
        ++ writeLine "lighter" (writeText config.lighter)
        ++ writeLine "enable_by_default" (toString config.enableByDefault)
        ++ "\n[overlay.languages]\n"
        ++ String.join (config.languages.map fun (language, name) =>
          writeLine language (writeText name))).toList := by
  have hhighlight : [Line.table highlightTitle, .pair (.ofCount "level" config.level hlevel)].flatMap Line.text =
      "[highlight]\n".toList ++ ((writeLine "level" (toString config.level)).toList ++ []) := rfl
  have hoverlay : (titleLines overlayTitle).flatMap Line.text = "\n[overlay]\n".toList := rfl
  have hlanguages : (titleLines languagesTitle).flatMap Line.text = "\n[overlay.languages]\n".toList := rfl
  simp only [headLines, List.flatMap_append, hhighlight, hoverlay, hlanguages, overlayPairs, languagePairs,
    Pair.ofText, Pair.ofFlag, Line.text, List.flatMap_cons, List.flatMap_nil, List.flatMap_map,
    List.append_nil, List.append_assoc, String.toList_append, String.toList_join]

/-- The text of settings is that of their lines. -/
theorem toList_render : config.render.toList = (config.allLines hlevel).flatMap Line.text := by
  have hbare : (if config.bare then titleLines setsTitle else []).flatMap Line.text =
      (if config.bare then "\n[overlay.rule_sets]\n" else "").toList := by
    cases config.bare <;> rfl
  have hhollow : (config.hollowPairs.map Line.pair).flatMap Line.text =
      (String.join (config.hollowSets.map fun set => writeLine set.1 "[]")).toList := by
    rw [text_pairs, hollowPairs, List.flatMap_map, String.toList_join, List.flatMap_map]
    rfl
  have hblocks : (config.ruleSets.flatMap setLines).flatMap Line.text =
      (String.join (config.ruleSets.map fun set => ruleSetText set.1 set.2)).toList := by
    simp only [String.toList_join, List.flatMap_map, toList_ruleSetText, List.flatMap_assoc]
  rw [allLines, List.flatMap_append, List.flatMap_append, List.flatMap_append, text_headLines, hbare, hhollow,
    hblocks, ← String.toList_append, ← String.toList_append, ← String.toList_append]
  rfl

end Config

end Dimming
