import Dimming.Editor
import Dimming.Proofs.Documents.Laws

/-!
# Documents in accord with their editor

What the documents of an editor have in common are a controller, base rules for some languages and base
features. A document accords with it, for a position of its switch and a level, when its highlighting
and its record are what these determine: nothing for a document without a language, base highlighting
while the switch is off or the language is not registered, and the overlay on top of it otherwise. Every
order that is given to a document keeps the accord and moves the position or the level; edits keep both.
-/

set_option autoImplicit false

namespace Dimming.Proofs.EditorHistory

/-- What the documents of an editor have in common. -/
structure Common where
  controller : Controller
  base : Language → Option (Shared RuleSet)
  features : Shared FeatureList

/-- The highlighting and the record of a document are determined by what is common, by the position of
its switch and by its level. -/
inductive Accords (common : Common) (on : Bool) (level : Nat) (document : Document) : Prop where
  /-- A document without a language has no highlighting. -/
  | plain (hlanguage : document.language = none) (hparsers : document.parsers = [])
      (hoverlay : document.overlay = ⟨on, none, none⟩) (hhighlight : document.highlight = none)
  /-- Base highlighting. -/
  | base {language : Language} {rules : Shared RuleSet}
      (hlanguage : document.language = some language) (hparsers : document.parsers ≠ [])
      (hbase : common.base language = some rules)
      (hon : on = true → common.controller.registry.lookup language = none)
      (hoverlay : document.overlay = ⟨on, none, none⟩)
      (hhighlight : document.highlight = some (Highlight.start rules common.features level))
  /-- The overlay on top of base highlighting. -/
  | dimmed {language : Language} {rules overlay merged : Shared RuleSet}
      {raised : Shared FeatureList}
      (hlanguage : document.language = some language) (hparsers : document.parsers ≠ [])
      (hbase : common.base language = some rules) (hon : on = true)
      (hlookup : common.controller.registry.lookup language = some overlay)
      (hoverlay : document.overlay = ⟨on, some rules, some common.features⟩)
      (hmerged : merged.value = rules.value.concat overlay.value)
      (hraised : raised.value = common.features.value.withTopPriority common.controller.feature)
      (hhighlight : document.highlight = some (Highlight.start merged raised level))

namespace Accords

variable {common : Common} {on : Bool} {level : Nat} {document : Document}

/-- The flag of a document in accord is the position of its switch. -/
theorem enabled (h : Accords common on level document) : document.overlay.enabled = on := by
  cases h with
  | plain _ _ hoverlay _ => rw [hoverlay]
  | base _ _ _ _ hoverlay _ => rw [hoverlay]
  | dimmed _ _ _ _ _ hoverlay _ _ _ => rw [hoverlay]

/-- A document in accord that has no language has no highlighting. -/
theorem of_language_eq_none (h : Accords common on level document)
    (hnone : document.language = none) :
    document.highlight = none ∧ document.parsers = [] ∧ document.overlay.isClear = true := by
  cases h with
  | plain _ hparsers hoverlay hhighlight => exact ⟨hhighlight, hparsers, by rw [hoverlay]; rfl⟩
  | base hlanguage =>
    rw [hnone] at hlanguage
    cases hlanguage
  | dimmed hlanguage =>
    rw [hnone] at hlanguage
    cases hlanguage

/-- A document in accord that has a language shows base highlighting, or the overlay on top of it; it
holds a snapshot in the second case alone. -/
theorem of_language_eq_some (h : Accords common on level document) {language : Language}
    (hsome : document.language = some language) :
    ∃ rules, common.base language = some rules ∧
      (document.overlay.hasSnapshot = true ↔
        on = true ∧ (common.controller.registry.lookup language).isSome = true) ∧
      ∃ state, document.highlight = some state ∧ state.level = level ∧
        state.effective = state.features.value.effective level ∧
        (document.overlay.hasSnapshot = false →
          document.overlay.isClear = true ∧ state.rules = rules ∧
            state.features = common.features) ∧
        (document.overlay.hasSnapshot = true →
          document.overlay.savedRules = some rules ∧
          document.overlay.savedFeatures = some common.features ∧
          ∃ overlay, common.controller.registry.lookup language = some overlay ∧
            state.rules.value.rules = rules.value.rules ++ overlay.value.rules ∧
            state.features.value =
              common.features.value.withTopPriority common.controller.feature) := by
  cases h with
  | plain hlanguage =>
    rw [hsome] at hlanguage
    cases hlanguage
  | base hlanguage _ hknown hon hoverlay hhighlight =>
    obtain rfl := Option.some.inj (hsome.symm.trans hlanguage)
    have hfalse : document.overlay.hasSnapshot = false := by
      rw [hoverlay]
      rfl
    refine ⟨_, hknown, ?_, _, hhighlight, rfl, rfl, ?_, ?_⟩
    · rw [hfalse]
      refine ⟨nofun, ?_⟩
      rintro ⟨htrue, hregistered⟩
      rw [hon htrue] at hregistered
      cases hregistered
    · exact fun _ => ⟨by rw [hoverlay]; rfl, rfl, rfl⟩
    · rw [hfalse]
      exact nofun
  | dimmed hlanguage _ hknown hon hlookup hoverlay hmerged hraised hhighlight =>
    obtain rfl := Option.some.inj (hsome.symm.trans hlanguage)
    have htrue : document.overlay.hasSnapshot = true := by
      rw [hoverlay]
      rfl
    refine ⟨_, hknown, ?_, _, hhighlight, rfl, rfl, ?_, ?_⟩
    · rw [htrue, hlookup]
      exact ⟨fun _ => ⟨hon, rfl⟩, fun _ => rfl⟩
    · rw [htrue]
      exact nofun
    · exact fun _ => ⟨by rw [hoverlay], by rw [hoverlay], _, hlookup,
        congrArg RuleSet.rules hmerged, hraised⟩

/-- Accord is a matter of language, parsers, record and highlighting. -/
theorem of_alike (h : Accords common on level document) {other : Document}
    (hlanguage : other.language = document.language)
    (hparsers : other.parsers = [] ↔ document.parsers = [])
    (hoverlay : other.overlay = document.overlay)
    (hhighlight : other.highlight = document.highlight) : Accords common on level other := by
  cases h with
  | plain hl hp ho hh =>
    exact .plain (hlanguage.trans hl) (hparsers.mpr hp) (hoverlay.trans ho) (hhighlight.trans hh)
  | base hl hp hb hon ho hh =>
    exact .base (hlanguage.trans hl) (mt hparsers.mp hp) hb hon (hoverlay.trans ho)
      (hhighlight.trans hh)
  | dimmed hl hp hb hon hlookup ho hm hr hh =>
    exact .dimmed (hlanguage.trans hl) (mt hparsers.mp hp) hb hon hlookup (hoverlay.trans ho) hm hr
      (hhighlight.trans hh)

/-- More base rules leave every accord. -/
theorem of_base (h : Accords common on level document)
    {base : Language → Option (Shared RuleSet)}
    (hbase : ∀ language rules, common.base language = some rules → base language = some rules) :
    Accords { common with base } on level document := by
  cases h with
  | plain hl hp ho hh => exact .plain hl hp ho hh
  | base hl hp hb hon ho hh => exact .base hl hp (hbase _ _ hb) hon ho hh
  | dimmed hl hp hb hon hlookup ho hm hr hh =>
    exact .dimmed hl hp (hbase _ _ hb) hon hlookup ho hm hr hh

/-- Taking the announcements from a document keeps its accord. -/
theorem deliver (h : Accords common on level document) : Accords common on level document.deliver.2 :=
  h.of_alike rfl Iff.rfl rfl rfl

/-- A new level keeps the accord at that level. -/
theorem setLevel (h : Accords common on level document) (next : Nat) :
    Accords common on next (document.setLevel next).2 := by
  have hlanguage := document.language_setLevel next
  have hparsers := document.parsers_setLevel next
  have hoverlay := document.overlay_setLevel next
  have hhighlight := document.highlight_setLevel next
  cases h with
  | plain hl hp ho hh =>
    rw [hh] at hhighlight
    exact .plain (hlanguage.trans hl) (hparsers.trans hp) (hoverlay.trans ho) hhighlight
  | base hl hp hb hon ho hh =>
    rw [hh] at hhighlight
    exact .base (hlanguage.trans hl) (hparsers ▸ hp) hb hon (hoverlay.trans ho) hhighlight
  | dimmed hl hp hb hon hlookup ho hm hr hh =>
    rw [hh] at hhighlight
    exact .dimmed (hlanguage.trans hl) (hparsers ▸ hp) hb hon hlookup (hoverlay.trans ho) hm hr
      hhighlight

/-- Turning the switch on puts the overlay on where the language is registered, once. -/
theorem set_on (h : Accords common on level document) (switch : Switch) (supply : Supply)
    (hswitch : switch.controller = common.controller) :
    Accords common true level (switch.set supply true document).1 := by
  have hlanguage := switch.language_set supply true document
  have hparsers := switch.parsers_set supply true document
  cases h with
  | plain hl hp ho hh =>
    rw [switch.set_on_unlit supply hh]
    exact .plain hl hp (by rw [Switch.flag, ho]) hh
  | @base language rules hl hp hb hon ho hh =>
    cases hlookup : switch.controller.registry.lookup language with
    | none =>
      rw [switch.set_on_unregistered supply hl hlookup]
      exact .base hl hp hb (fun _ => hswitch ▸ hlookup) (by rw [Switch.flag, ho]) hh
    | some overlay =>
      obtain ⟨hoverlay, merged, raised, hmerged, hraised, hhighlight⟩ :=
        switch.set_on_registered supply hl hp hh hlookup
      rw [ho] at hoverlay hmerged hraised
      rw [hswitch] at hlookup hraised
      exact .dimmed (hlanguage.trans hl) (hparsers ▸ hp) hb rfl hlookup hoverlay hmerged hraised
        hhighlight
  | @dimmed language rules overlay _ _ hl hp hb hon hlookup ho _ _ hh =>
    obtain ⟨hoverlay, merged, raised, hmerged, hraised, hhighlight⟩ :=
      switch.set_on_registered supply hl hp hh (hswitch ▸ hlookup)
    rw [ho] at hoverlay hmerged hraised
    rw [hswitch] at hraised
    exact .dimmed (hlanguage.trans hl) (hparsers ▸ hp) hb rfl hlookup hoverlay hmerged hraised
      hhighlight

/-- Turning the switch off brings base highlighting back. -/
theorem set_off (h : Accords common on level document) (switch : Switch) (supply : Supply) :
    Accords common false level (switch.set supply false document).1 := by
  have hlanguage := switch.language_set supply false document
  have hparsers := switch.parsers_set supply false document
  have hoverlay := switch.overlay_set_off supply document
  have hhighlight := switch.highlight_set_off supply document
  cases h with
  | plain hl hp ho hh =>
    rw [hh] at hhighlight
    exact .plain (hlanguage.trans hl) (hparsers.trans hp) hoverlay hhighlight
  | base hl hp hb hon ho hh =>
    rw [hh, ho] at hhighlight
    exact .base (hlanguage.trans hl) (hparsers ▸ hp) hb nofun hoverlay hhighlight
  | dimmed hl hp hb hon hlookup ho _ _ hh =>
    rw [hh, ho] at hhighlight
    exact .base (hlanguage.trans hl) (hparsers ▸ hp) hb nofun hoverlay hhighlight

/-- Moving the switch keeps the accord at the new position. -/
theorem set (h : Accords common on level document) (switch : Switch) (supply : Supply)
    (hswitch : switch.controller = common.controller) (next : Bool) :
    Accords common next level (switch.set supply next document).1 := by
  cases next with
  | true => exact h.set_on switch supply hswitch
  | false => exact h.set_off switch supply

/-- An edit keeps the accord, whatever becomes of it. -/
theorem edited [ParseEngine] (h : Accords common on level document) {outcome : Document.Outcome Unit}
    (hedited : document.Edited outcome) : Accords common on level outcome.2 :=
  h.of_alike hedited.language_eq hedited.parsers_eq_nil hedited.overlay_eq hedited.highlight_eq

/-- A new document without a language accords from the start. -/
theorem ofBuffer_none (common : Common) (level : Nat) (id : DocumentId) (buffer : Buffer)
    (name : String) : Accords common false level (Document.ofBuffer id buffer name none) :=
  .plain rfl rfl rfl rfl

/-- A new document with a language accords once highlighting is on. -/
theorem ofBuffer_some (common : Common) (level : Nat) (id : DocumentId) (buffer : Buffer)
    (name : String) {language : Language} {rules : Shared RuleSet}
    (hbase : common.base language = some rules) (parser : Parser) :
    Accords common false level
      ((Document.ofBuffer id buffer name (some language)).listen.lit parser rules common.features
        level) :=
  .base rfl (List.cons_ne_nil _ _) hbase nofun rfl rfl

end Accords

end Dimming.Proofs.EditorHistory
