import Dimming.Proofs.Editors.Bodies
import Dimming.Proofs.Highlighting.LastMark
import Dimming.Proofs.Rules.Compiled

/-!
# What the overlay changes on screen

A document that is open in an editor is shown with the overlay off and on. Its text and its tree are the
same both times, and so are its base rules and its level. With the overlay on, a range that some overlay
rule marks has the style of the last such rule and the feature of the overlay; all other ranges are
shown as with the overlay off. Turning the overlay off again brings back what was shown before.

This needs the registry, the controller and the tiers to speak of one feature, which base highlighting
does not have, and it holds whatever the rules mark.
-/

set_option autoImplicit false

namespace Dimming

/-- The spans to show, when it is given which ranges a rule marks in the tree of a text. -/
def Document.spansBy (ranges : Rule → Tree → List Char → List (Nat × Nat)) (document : Document) :
    List Span :=
  match document.highlight, document.parsers with
  | some state, parser :: _ =>
    match parser.tree with
    | some tree =>
      state.spansOf parser.language (fun rule => ranges rule tree document.buffer.chars)
    | none => []
  | _, _ => []

/-- The spans of a document are those for the ranges that its rules mark. -/
theorem Document.spansBy_ranges (document : Document) :
    document.spansBy Rule.ranges = document.spans := rfl

/-- Spans depend on what rules and features there are, and not on which values hold them. -/
theorem Highlight.spansOf_start_congr {rules others : Shared RuleSet}
    {features tiers : Shared FeatureList} (hrules : rules.value = others.value)
    (hfeatures : features.value = tiers.value) (level : Nat) (language : Language)
    (ranges : Rule → List (Nat × Nat)) :
    (start rules features level).spansOf language ranges =
      (start others tiers level).spansOf language ranges := by
  have hactive : (start rules features level).active language =
      (start others tiers level).active language := by
    unfold active isEnabled start
    rw [hrules, hfeatures]
  rw [spansOf, spansOf, hactive]

end Dimming

namespace Dimming.Proofs.EditorHistory

/-! ## The highlighting that a position of the switch stands for -/

namespace Accords

variable {common : Common} {level : Nat} {document : Document} {language : Language}

/-- A document with a language has a parser. -/
theorem parsers_ne_nil {on : Bool} (h : Accords common on level document)
    (hlanguage : document.language = some language) : document.parsers ≠ [] := by
  cases h with
  | plain hnone =>
    rw [hlanguage] at hnone
    cases hnone
  | base _ hparsers => exact hparsers
  | dimmed _ hparsers => exact hparsers

/-- With the switch off, base highlighting is live. -/
theorem highlight_off (h : Accords common false level document)
    (hlanguage : document.language = some language) :
    ∃ rules, common.base language = some rules ∧
      document.highlight = some (Highlight.start rules common.features level) := by
  cases h with
  | plain hnone =>
    rw [hlanguage] at hnone
    cases hnone
  | base hsome _ hbase _ _ hhighlight =>
    obtain rfl := Option.some.inj (hlanguage.symm.trans hsome)
    exact ⟨_, hbase, hhighlight⟩
  | dimmed _ _ _ hon => cases hon

/-- With the switch on, the overlay of a registered language is live on top of base highlighting. -/
theorem highlight_on {overlay : Shared RuleSet} (h : Accords common true level document)
    (hlanguage : document.language = some language)
    (hregistered : common.controller.registry.lookup language = some overlay) :
    ∃ rules merged raised, common.base language = some rules ∧
      merged.value = rules.value.concat overlay.value ∧
      raised.value = common.features.value.withTopPriority common.controller.feature ∧
      document.highlight = some (Highlight.start merged raised level) := by
  cases h with
  | plain hnone =>
    rw [hlanguage] at hnone
    cases hnone
  | base hsome _ _ hon =>
    obtain rfl := Option.some.inj (hlanguage.symm.trans hsome)
    rw [hon rfl] at hregistered
    cases hregistered
  | dimmed hsome _ hbase _ hlookup _ hmerged hraised hhighlight =>
    obtain rfl := Option.some.inj (hlanguage.symm.trans hsome)
    obtain rfl := Option.some.inj (hregistered.symm.trans hlookup)
    exact ⟨_, _, _, hbase, hmerged, hraised, hhighlight⟩

end Accords

/-! ## Spans over one tree -/

/-- A document with parsers has a tree, and its spans and those of every document with its body are
what the live rules mark in that tree. -/
theorem exists_tree {document : Document} {language : Language} (h : Equipped document.body)
    (hparsers : document.parsers ≠ []) (hlanguage : document.language = some language) :
    ∃ tree, document.parsers.head?.bind (·.tree) = some tree ∧
      ∀ (other : Document) (state : Highlight)
        (ranges : Rule → Tree → List Char → List (Nat × Nat)),
        other.body = document.body → other.highlight = some state →
        other.spansBy ranges =
          state.spansOf language (fun rule => ranges rule tree document.buffer.chars) := by
  obtain ⟨parser, rest, hcons⟩ := List.exists_cons_of_ne_nil hparsers
  have hmem : parser ∈ document.body.parsers := by
    rw [Document.body, hcons]
    exact List.mem_cons_self
  obtain ⟨hown, hsome⟩ := h parser hmem
  obtain ⟨tree, htree⟩ := Option.isSome_iff_exists.mp hsome
  obtain rfl : language = parser.language := Option.some.inj (hlanguage.symm.trans hown)
  refine ⟨tree, by rw [hcons, List.head?_cons, Option.bind_some, htree], ?_⟩
  intro other state ranges hbody hstate
  have hother : other.parsers = parser :: rest :=
    (congrArg DocumentBody.parsers hbody).trans hcons
  have hbuffer : other.buffer = document.buffer := congrArg DocumentBody.buffer hbody
  simp only [Document.spansBy, hstate, hother, htree, hbuffer]

/-- Documents with one body that accord at one position of the switch show the same. -/
theorem spansBy_congr {common : Common} {on : Bool} {level : Nat} {first second : Document}
    {language : Language} {overlay : Shared RuleSet} (hfirst : Accords common on level first)
    (hsecond : Accords common on level second) (hbody : second.body = first.body)
    (hequipped : Equipped first.body) (hlanguage : first.language = some language)
    (hregistered : common.controller.registry.lookup language = some overlay)
    (ranges : Rule → Tree → List Char → List (Nat × Nat)) :
    second.spansBy ranges = first.spansBy ranges := by
  have hlanguage' : second.language = some language :=
    (congrArg DocumentBody.language hbody).trans hlanguage
  obtain ⟨tree, -, hspans⟩ := exists_tree hequipped (hfirst.parsers_ne_nil hlanguage) hlanguage
  cases on with
  | false =>
    obtain ⟨rules, hbase, hstate⟩ := hfirst.highlight_off hlanguage
    obtain ⟨rules', hbase', hstate'⟩ := hsecond.highlight_off hlanguage'
    obtain rfl := Option.some.inj (hbase.symm.trans hbase')
    rw [hspans first _ ranges rfl hstate, hspans second _ ranges hbody hstate']
  | true =>
    obtain ⟨rules, merged, raised, hbase, hmerged, hraised, hstate⟩ :=
      hfirst.highlight_on hlanguage hregistered
    obtain ⟨rules', merged', raised', hbase', hmerged', hraised', hstate'⟩ :=
      hsecond.highlight_on hlanguage' hregistered
    obtain rfl := Option.some.inj (hbase.symm.trans hbase')
    rw [hspans first _ ranges rfl hstate, hspans second _ ranges hbody hstate']
    exact Highlight.spansOf_start_congr (hmerged'.trans hmerged.symm)
      (hraised'.trans hraised.symm) level language _

/-! ## Moving the switch of an open document -/

/-- A document that is put in place of another is found under its identity; under every other identity a
shelf holds what it held. -/
theorem get?_replace (shelf : Shelf) (document : Document) (id : DocumentId) :
    (shelf.replace document).get? id =
      if document.id = id then (shelf.get? id).map (fun _ => document) else shelf.get? id := by
  have hsame : (fun other : Document => decide (other.id = id)) ∘
      (fun other => if other.id = document.id then document else other) =
        fun other => decide (other.id = id) := by
    funext other
    rw [Function.comp_apply]
    split
    · next hother => rw [hother]
    · rfl
  have hmap : (shelf.replace document).get? id = (shelf.get? id).map
      (fun other => if other.id = document.id then document else other) := by
    unfold Shelf.get? Shelf.replace
    rw [List.find?_map, hsame]
  rw [hmap]
  cases hget : shelf.get? id with
  | none => simp
  | some former =>
    rw [Option.map_some, (mem_of_get? hget).2]
    by_cases h : document.id = id
    · simp [h]
    · simp [h, Ne.symm h]

/-- A document whose switch is moved is found with the body it had, in accord with the new position. -/
theorem exists_turned {editor : Editor} {id : DocumentId} {document : Document} {on : Bool}
    {level : Nat} (hget : editor.shelf.get? id = some document)
    (haccords : Accords (basis editor).common on level document) (next : Bool) :
    basis (editor.setOverlay id next).2 = basis editor ∧
      ∃ turned, (editor.setOverlay id next).2.shelf.get? id = some turned ∧
        turned.body = document.body ∧ Accords (basis editor).common next level turned := by
  obtain ⟨hbasis, supply, hshelf⟩ := Act.give_of_present hget (.turn next)
  let turned := (Order.obey editor.mode supply document (.turn next)).deliver.2
  have hbody : turned.body = document.body :=
    Order.body_obey editor.mode supply document (.turn next)
  have hid : turned.id = id := (congrArg DocumentBody.id hbody).trans (mem_of_get? hget).2
  refine ⟨hbasis, turned, ?_, hbody, ?_⟩
  · have hafter : (editor.setOverlay id next).2.shelf = editor.shelf.replace turned := hshelf
    rw [hafter, get?_replace, if_pos hid, hget, Option.map_some]
  · exact Order.accords_obey haccords editor.mode supply rfl (.turn next)

/-- Base rules have none but the features of base highlighting. -/
theorem CompiledBase.feature_ne {language : Language} {rules : Shared RuleSet} {feature : String}
    (h : CompiledBase language rules) (hfeature : feature ∉ Tables.baseFeatureNames) :
    ∀ rule ∈ rules.value.rules, rule.feature ≠ ⟨feature⟩ := by
  obtain ⟨before, after, hcompiled⟩ := h
  intro rule hrule heq
  have hname := Tables.feature_mem_of_baseRules hcompiled hrule
  rw [heq] at hname
  exact hfeature hname

/-- The registry of an editor is tagged with the feature of its settings. -/
theorem taggedWith_of_ofConfig {config : Config} {compiler : Compiler} {supply : Supply}
    {start : Editor} (h : Editor.ofConfig config compiler supply = .ok start) :
    start.mode.controller.registry.TaggedWith ⟨config.feature⟩ := by
  unfold Editor.ofConfig at h
  split at h
  · cases h
  · next registry after hbuild =>
    cases h
    exact Config.taggedWith_of_buildRegistry hbuild

/-- What the overlay changes on screen. Take an editor of any settings whose overlay feature is not one of
base highlighting, and a document that is open after any acts, in a language with an overlay; its level
is the last one that was set. Let it be known which ranges a rule marks in the tree of a text.
Turn the switch of the document off, or on, or on and then off. The document shows what it shows in the
first case or in the second, by the position of its switch, and the third case is the same as the
first. Spans come in the order of their ranges, with no range twice. At level zero there are none. At
every other level the spans with the overlay on are those with the overlay off, overridden at the ranges
that are not empty and that some overlay rule marks: these have the style of the last such rule, and
the feature of the overlay. -/
theorem overlay_on_screen [ParseEngine] (config : Config) (compiler : Compiler) (supply : Supply)
    (start : Editor) (h : Editor.ofConfig config compiler supply = .ok start)
    (hfeature : config.feature ∉ Tables.baseFeatureNames) (acts : List Act) (id : DocumentId)
    (document : Document)
    (hopen : (Session.run ⟨start, []⟩ acts).editor.shelf.get? id = some document)
    (language : Language) (hlanguage : document.language = some language)
    (overlay : Shared RuleSet)
    (hregistered : start.mode.controller.registry.lookup language = some overlay)
    (ranges : Rule → Tree → List Char → List (Nat × Nat)) :
    let session := Session.run ⟨start, []⟩ acts
    let level := levelOf config.level id session.log
    let turn (on : Bool) (editor : Editor) : Editor := (editor.setOverlay id on).2
    document.highlight.map (·.level) = some level ∧
    ∃ tree off on back, document.parsers.head?.bind (·.tree) = some tree ∧
      (turn false session.editor).shelf.get? id = some off ∧
      (turn true session.editor).shelf.get? id = some on ∧
      (turn false (turn true session.editor)).shelf.get? id = some back ∧
      document.spansBy ranges = (if Switch.isOn document then on else off).spansBy ranges ∧
      back.spansBy ranges = off.spansBy ranges ∧
      Span.Sorted (off.spansBy ranges) ∧ Span.Sorted (on.spansBy ranges) ∧
      (level = 0 → off.spansBy ranges = [] ∧ on.spansBy ranges = []) ∧
      (1 ≤ level →
        Span.Overridden
          (lastMarking overlay.value.rules (fun rule => ranges rule tree document.buffer.chars))
          ⟨config.feature⟩ (off.spansBy ranges) (on.spansBy ranges)) := by
  intro session level turn
  obtain ⟨hconfig, hcontroller, hstart⟩ := Kept.ofConfig h
  have hkept : Kept start session := hstart.run acts
  obtain ⟨hmem, rfl⟩ := mem_of_get? hopen
  let common := (basis session.editor).common
  have hmode : common.controller = start.mode.controller :=
    congrArg Switch.controller hkept.mode
  have hlookup : common.controller.registry.lookup language = some overlay := by
    rw [hmode]
    exact hregistered
  have haccords : Accords common (modeOf start.config.enableByDefault document.id session.log)
      level document := by
    have haccords := hkept.accords document hmem
    rw [hconfig] at haccords ⊢
    exact haccords
  have hequipped : Equipped document.body :=
    AllBodies.run inherited_equipped (allBodies_of_ofConfig h Equipped) acts document hmem
  obtain ⟨tree, htree, hspans⟩ :=
    exists_tree hequipped (haccords.parsers_ne_nil hlanguage) hlanguage
  -- the three ways to turn the switch
  obtain ⟨-, off, hoff, hoffBody, hoffAccords⟩ := exists_turned hopen haccords false
  obtain ⟨hbasis, on, hon, honBody, honAccords⟩ := exists_turned hopen haccords true
  obtain ⟨-, back, hback, hbackBody, hbackAccords⟩ :=
    exists_turned hon (hbasis.symm ▸ honAccords) false
  rw [hbasis] at hbackAccords
  have hoffLanguage : off.language = some language :=
    (congrArg DocumentBody.language hoffBody).trans hlanguage
  have honLanguage : on.language = some language :=
    (congrArg DocumentBody.language honBody).trans hlanguage
  -- what is live with the switch off and on
  obtain ⟨rules, hbase, hoffState⟩ := hoffAccords.highlight_off hoffLanguage
  obtain ⟨rules', merged, raised, hbase', hmerged, hraised, honState⟩ :=
    honAccords.highlight_on honLanguage hlookup
  obtain rfl := Option.some.inj (hbase.symm.trans hbase')
  have hfeatures : ∀ rule ∈ rules.value.rules, rule.feature ≠ ⟨config.feature⟩ :=
    (hkept.compiled language rules hbase).feature_ne hfeature
  rw [hmode, hcontroller] at hraised
  have hoffSpans := hspans off _ ranges hoffBody hoffState
  have honSpans := hspans on _ ranges honBody honState
  refine ⟨?_, tree, off, on, back, htree, hoff, hon, hback, ?_, ?_, ?_, ?_, ?_, ?_⟩
  · obtain ⟨-, -, -, state, hstate, hlevel, -⟩ := haccords.of_language_eq_some hlanguage
    rw [hstate, Option.map_some, hlevel]
  · have hposition : Switch.isOn document =
        modeOf start.config.enableByDefault document.id session.log := haccords.enabled
    rw [← hposition] at haccords
    cases hswitch : Switch.isOn document with
    | true =>
      rw [hswitch] at haccords
      exact spansBy_congr honAccords haccords honBody.symm (honBody ▸ hequipped) honLanguage
        hlookup ranges
    | false =>
      rw [hswitch] at haccords
      exact spansBy_congr hoffAccords haccords hoffBody.symm (hoffBody ▸ hequipped) hoffLanguage
        hlookup ranges
  · exact spansBy_congr hoffAccords hbackAccords ((hbackBody.trans honBody).trans hoffBody.symm)
      (hoffBody ▸ hequipped) hoffLanguage hlookup ranges
  · rw [hoffSpans]
    exact Highlight.sorted_spansOf _ _ _
  · rw [honSpans]
    exact Highlight.sorted_spansOf _ _ _
  · intro hzero
    rw [hoffSpans, honSpans, hzero]
    exact ⟨Highlight.spansOf_level_zero _ _ _ _, Highlight.spansOf_level_zero _ _ _ _⟩
  · intro hlevel
    rw [hoffSpans, honSpans]
    exact Highlight.overridden_spansOf hmerged hraised hfeatures
      (taggedWith_of_ofConfig h language overlay hregistered) hlevel _

/-! ## A number in brackets -/

/-- A compiler that compiles the patterns of JSON and makes queries that match nothing of all others. -/
def jsonCompiler : Compiler := fun language pattern =>
  match language with
  | .json => compilePattern language pattern
  | _ => idleCompiler language pattern

/-- An editor in which JSON is dimmed. -/
def jsonEditor : Editor :=
  (Editor.ofConfig .default jsonCompiler .initial).toOption.get (by decide +kernel)

/-- The editor after a number in brackets was opened. -/
def bracketEditor : Editor :=
  (Session.run ⟨jsonEditor, []⟩ [.openText "[1]" (some .json)]).editor

/-- With the overlay on, the brackets are overridden, and this is seen. -/
theorem overlay_on_screen_brackets :
    Editor.ofConfig .default jsonCompiler .initial = .ok jsonEditor ∧
    ∃ document overlay tree off on,
      bracketEditor.shelf.get? ⟨0⟩ = some document ∧ document.language = some .json ∧
      jsonEditor.mode.controller.registry.lookup .json = some overlay ∧
      (bracketEditor.setOverlay ⟨0⟩ false).2.shelf.get? ⟨0⟩ = some off ∧
      (bracketEditor.setOverlay ⟨0⟩ true).2.shelf.get? ⟨0⟩ = some on ∧
      Span.Overridden
        (lastMarking overlay.value.rules (fun rule => rule.ranges tree document.buffer.chars))
        .overlay off.spans on.spans ∧
      on.spans ≠ off.spans := by
  have hget : ∀ (built : Except EditorError Editor) (h : built.toOption.isSome = true),
      built = .ok (built.toOption.get h) := by
    intro built h
    cases built with
    | error cause => cases h
    | ok editor => rfl
  have hbuilt : Editor.ofConfig .default jsonCompiler .initial = .ok jsonEditor := by
    unfold jsonEditor
    exact hget _ _
  have hopen : (bracketEditor.shelf.get? ⟨0⟩).map (·.language) = some (some .json) := by
    decide +kernel
  have hregistered : (jsonEditor.mode.controller.registry.lookup .json).isSome = true := by
    decide +kernel
  have hseen : ((bracketEditor.setOverlay ⟨0⟩ true).2.shelf.get? ⟨0⟩).map Document.spans ≠
      ((bracketEditor.setOverlay ⟨0⟩ false).2.shelf.get? ⟨0⟩).map Document.spans := by
    decide +kernel
  obtain ⟨document, hdocument, hlanguage⟩ := Option.map_eq_some_iff.mp hopen
  obtain ⟨overlay, hoverlay⟩ := Option.isSome_iff_exists.mp hregistered
  obtain ⟨-, tree, off, on, -, -, hoff, hon, -, -, -, -, -, -, hoverridden⟩ :=
    overlay_on_screen .default jsonCompiler .initial jsonEditor hbuilt (by decide)
      [.openText "[1]" (some .json)] ⟨0⟩ document hdocument .json hlanguage overlay hoverlay
      Rule.ranges
  have hon' : (bracketEditor.setOverlay ⟨0⟩ true).2.shelf.get? ⟨0⟩ = some on := by
    unfold bracketEditor
    exact hon
  have hoff' : (bracketEditor.setOverlay ⟨0⟩ false).2.shelf.get? ⟨0⟩ = some off := by
    unfold bracketEditor
    exact hoff
  have hover := hoverridden (by decide +kernel)
  rw [Document.spansBy_ranges, Document.spansBy_ranges] at hover
  rw [hon', hoff'] at hseen
  exact ⟨hbuilt, document, overlay, tree, off, on, hdocument, hlanguage, hoverlay, hoff', hon',
    hover, fun hsame => hseen (congrArg some hsame)⟩

end Dimming.Proofs.EditorHistory
