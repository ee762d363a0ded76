import Dimming.Proofs.Documents.Laws

/-!
# When the overlay is applied

A document with a snapshot is meant to show the saved rules with the overlay behind them, and giving the
overlay up is meant to bring back what highlighting was turned on with. Turning highlighting on again
writes the live values without a word to the overlay's record. So both hold exactly as long as that does
not happen over a snapshot. What is live then is what was given, until the switch is turned on once more,
and what comes back is what was put aside before, whatever was given since.
-/

set_option autoImplicit false

namespace Dimming.Proofs.AppliedOverlay

/-- What can be done to a document. -/
inductive Act where
  | highlight (rules : Shared RuleSet) (features : Shared FeatureList) (level : Nat)
  | set (on : Bool)
  | toggle
  | setLevel (level : Nat)
  | insert (index : Nat) (text : String)
  | delete (start stop : Nat)

/-- Values that highlighting was turned on with, and the snapshot that was held just then. -/
structure Giving where
  given : Snapshot
  held : Option Snapshot

/-- What highlighting rests on after a giving: a snapshot that was held outlives it. -/
def Giving.rest (giving : Giving) : Snapshot := giving.held.getD giving.given

/-- What is remembered of an act. -/
inductive Moment where
  | gave (giving : Giving)
  | turnedOn
  | other

namespace Moment

/-- The giving of a moment, if there was one. -/
def giving? : Moment → Option Giving
  | .gave giving => some giving
  | _ => none

/-- The switch was turned on. -/
def isTurnedOn : Moment → Bool
  | .turnedOn => true
  | _ => false

end Moment

/-- The most recent giving. The past begins with what happened last. -/
def latest (past : List Moment) : Option Giving := past.findSome? Moment.giving?

/-- The switch was turned on since the most recent giving. -/
def turnedOnSince (past : List Moment) : Bool :=
  (past.takeWhile (fun moment => moment.giving?.isNone)).any Moment.isTurnedOn

/-- A document in the course of a run, with what has happened to it. -/
structure Stage where
  document : Document
  supply : Supply
  past : List Moment

namespace Act

/-- What an act does to the switch of a document, if it moves it. -/
def turn? (document : Document) : Act → Option Bool
  | .set on => some on
  | .toggle => some (!document.overlay.enabled)
  | _ => none

/-- The document and the supply after an act, also when it fails. -/
def perform [ParseEngine] (switch : Switch) (document : Document) (supply : Supply) :
    Act → Document × Supply
  | .highlight rules features level => ((document.enableHighlighting rules features level).2, supply)
  | .set on => switch.set supply on document
  | .toggle => (switch.toggle supply document).2
  | .setLevel level => ((document.setLevel level).2, supply)
  | .insert index text => ((document.insert index text).2, supply)
  | .delete start stop => ((document.delete start stop).2, supply)

/-- An act as it is remembered. Values of which highlighting could not make use were not given. -/
def moment [ParseEngine] (document : Document) (act : Act) : Moment :=
  match act with
  | .highlight rules features level =>
    match (document.enableHighlighting rules features level).1 with
    | .ok () => .gave ⟨⟨rules, features⟩, document.overlay.saved⟩
    | .error _ => .other
  | _ => if act.turn? document = some true then .turnedOn else .other

end Act

namespace Stage

variable [ParseEngine]

/-- The stage after an act. -/
def step (switch : Switch) (stage : Stage) (act : Act) : Stage where
  document := (act.perform switch stage.document stage.supply).1
  supply := (act.perform switch stage.document stage.supply).2
  past := act.moment stage.document :: stage.past

/-- The stage after some acts. -/
def run (switch : Switch) (stage : Stage) (acts : List Act) : Stage :=
  acts.foldl (step switch) stage

end Stage

/-- The live rules are the saved ones with the overlay behind them, rule by rule, and the overlay's
feature is in the top tier. -/
def Applied (overlay : Shared RuleSet) (feature : Feature) (saved live : Snapshot) : Prop :=
  live.rules.value.stamps = saved.rules.value.stamps ++ overlay.value.stamps ∧
    feature ∈ live.features.value.topTier

/-- The live values of a document. -/
def live? (document : Document) : Option Snapshot :=
  document.highlight.map (fun state => ⟨state.rules, state.features⟩)

/-- What was put on top is in the top tier. -/
theorem mem_topTier_withTopPriority (list : FeatureList) (feature : Feature) :
    feature ∈ (list.withTopPriority feature).topTier := by
  unfold FeatureList.withTopPriority
  split
  · exact List.mem_singleton_self feature
  · next top lower htiers =>
    split
    · next hmem =>
      rw [FeatureList.topTier, htiers]
      exact hmem
    · exact List.mem_cons_self

/-- Saved values with the overlay on top of them are what is meant to be shown. -/
theorem applied_of_eq {overlay : Shared RuleSet} {feature : Feature} {saved live : Snapshot}
    (hrules : live.rules.value = saved.rules.value.concat overlay.value)
    (hfeatures : live.features.value = saved.features.value.withTopPriority feature) :
    Applied overlay feature saved live := by
  refine ⟨?_, ?_⟩
  · rw [hrules]
    exact List.map_append
  · rw [hfeatures]
    exact mem_topTier_withTopPriority _ feature

/-! ## The past of a document -/

/-- Any other moment leaves the most recent giving. -/
theorem latest_cons {moment : Moment} (h : moment.giving? = none) (past : List Moment) :
    latest (moment :: past) = latest past := by
  simp [latest, h]

/-- Any other moment counts when the switch was turned on in it. -/
theorem turnedOnSince_cons {moment : Moment} (h : moment.giving? = none) (past : List Moment) :
    turnedOnSince (moment :: past) = (moment.isTurnedOn || turnedOnSince past) := by
  simp [turnedOnSince, h]

namespace Act

/-- Only turning highlighting on makes a giving. -/
theorem giving?_moment [ParseEngine] {document : Document} {act : Act} {on : Bool}
    (h : act.turn? document = some on) :
    (act.moment document).giving? = none ∧ (act.moment document).isTurnedOn = on := by
  cases act with
  | highlight rules features level => cases h
  | set next =>
    cases h
    cases on <;> exact ⟨rfl, rfl⟩
  | toggle =>
    simp only [moment, h]
    cases on <;> exact ⟨rfl, rfl⟩
  | setLevel level => cases h
  | insert index text => cases h
  | delete start stop => cases h

/-- An act that moves the switch is the switch put where it is moved to. -/
theorem perform_of_turn? [ParseEngine] {document : Document} {act : Act} {on : Bool}
    (h : act.turn? document = some on) (switch : Switch) (supply : Supply) :
    act.perform switch document supply = switch.set supply on document := by
  cases act with
  | highlight rules features level => cases h
  | set next =>
    cases h
    rfl
  | toggle =>
    simp only [turn?, Option.some.injEq] at h
    rw [← h]
    rfl
  | setLevel level => cases h
  | insert index text => cases h
  | delete start stop => cases h

end Act

/-! ## What the past tells of a document -/

/-- What is live and what is saved in a document is told by its past. -/
inductive Told (controller : Controller) (language : Language) (past : List Moment)
    (document : Document) : Prop where
  /-- Highlighting was not turned on yet. -/
  | dark (hlatest : latest past = none) (hlanguage : document.language = some language)
      (hoverlay : document.overlay = ⟨document.overlay.enabled, none, none⟩)
      (hlive : live? document = none)
  /-- No snapshot is held. What the latest giving rests on is live. -/
  | plain {giving : Giving} (hlatest : latest past = some giving)
      (hlanguage : document.language = some language) (hparsers : document.parsers ≠ [])
      (hoverlay : document.overlay = ⟨document.overlay.enabled, none, none⟩)
      (hlive : live? document = some giving.rest)
  /-- What the latest giving rests on is saved. The overlay is on top of it once the switch was turned
  on; until then just the given values are live. -/
  | dimmed {giving : Giving} {overlay : Shared RuleSet} {live : Snapshot}
      (hlatest : latest past = some giving)
      (hlanguage : document.language = some language) (hparsers : document.parsers ≠ [])
      (hlookup : controller.registry.lookup language = some overlay)
      (hoverlay : document.overlay = ⟨document.overlay.enabled, some giving.rest.rules,
        some giving.rest.features⟩)
      (hlive : live? document = some live)
      (happlied : turnedOnSince past = true →
        live.rules.value = giving.rest.rules.value.concat overlay.value ∧
          live.features.value = giving.rest.features.value.withTopPriority controller.feature)
      (hbare : turnedOnSince past = false → live = giving.given)

namespace Told

variable {controller : Controller} {language : Language} {past : List Moment} {document : Document}

/-- What the past tells is a matter of language, parsers, slots, and live rules and features. -/
theorem of_alike (h : Told controller language past document) {moment : Moment} {after : Document}
    (hgiving : moment.giving? = none) (hturned : moment.isTurnedOn = false)
    (hlanguage : after.language = document.language)
    (hparsers : after.parsers = [] ↔ document.parsers = [])
    (hoverlay : after.overlay = document.overlay) (hlive : live? after = live? document) :
    Told controller language (moment :: past) after := by
  have hlatest := latest_cons hgiving past
  have hpast : turnedOnSince (moment :: past) = turnedOnSince past := by
    rw [turnedOnSince_cons hgiving, hturned, Bool.false_or]
  cases h with
  | dark hl hlang ho hv =>
    exact .dark (hlatest.trans hl) (hlanguage.trans hlang) (hoverlay ▸ ho) (hlive.trans hv)
  | plain hl hlang hp ho hv =>
    exact .plain (hlatest.trans hl) (hlanguage.trans hlang) (mt hparsers.mp hp) (hoverlay ▸ ho)
      (hlive.trans hv)
  | dimmed hl hlang hp hlookup ho hv happlied hbare =>
    rw [← hpast] at happlied hbare
    exact .dimmed (hlatest.trans hl) (hlanguage.trans hlang) (mt hparsers.mp hp) hlookup
      (hoverlay ▸ ho) (hlive.trans hv) happlied hbare

/-- Turning highlighting on starts over from the given values and leaves the slots as they are. -/
theorem lit (h : Told controller language past document) (parser : Parser) (rules : Shared RuleSet)
    (features : Shared FeatureList) (level : Nat) :
    Told controller language (.gave ⟨⟨rules, features⟩, document.overlay.saved⟩ :: past)
      (document.lit parser rules features level) := by
  cases h with
  | dark hl hlang ho hv =>
    have hsaved : document.overlay.saved = none := by
      rw [ho]
      rfl
    rw [hsaved]
    exact .plain rfl hlang (List.cons_ne_nil _ _) ho rfl
  | plain hl hlang hp ho hv =>
    have hsaved : document.overlay.saved = none := by
      rw [ho]
      rfl
    rw [hsaved]
    exact .plain rfl hlang (List.cons_ne_nil _ _) ho rfl
  | @dimmed giving overlay live hl hlang hp hlookup ho hv happlied hbare =>
    have hsaved : document.overlay.saved = some giving.rest := by
      rw [ho]
      rfl
    rw [hsaved]
    exact .dimmed rfl hlang (List.cons_ne_nil _ _) hlookup ho rfl nofun (fun _ => rfl)

/-- Where the overlay is to be had, turning the switch on puts it on what is saved, or else on what is
live, and saves that. -/
theorem set_on_of_lookup (switch : Switch) (supply : Supply) {overlay : Shared RuleSet}
    {live saved : Snapshot} (hlanguage : document.language = some language)
    (hparsers : document.parsers ≠ []) (hlive : live? document = some live)
    (hlookup : switch.controller.registry.lookup language = some overlay)
    (hsaved : document.overlay.saved.getD live = saved) :
    ∃ next, live? (switch.set supply true document).1 = some next ∧
      (switch.set supply true document).1.overlay = ⟨true, some saved.rules, some saved.features⟩ ∧
      next.rules.value = saved.rules.value.concat overlay.value ∧
      next.features.value = saved.features.value.withTopPriority switch.controller.feature := by
  obtain ⟨state, hstate, rfl⟩ := Option.map_eq_some_iff.mp hlive
  obtain ⟨hoverlay, merged, raised, hmerged, hraised, hhighlight⟩ :=
    switch.set_on_registered supply hlanguage hparsers hstate hlookup
  rw [hsaved] at hoverlay hmerged hraised
  refine ⟨⟨merged, raised⟩, ?_, hoverlay, hmerged, hraised⟩
  rw [live?, hhighlight]
  rfl

/-- Turning the switch on puts the overlay on what the latest giving rests on. -/
theorem turnOn (h : Told controller language past document) {moment : Moment}
    (hgiving : moment.giving? = none) (hturned : moment.isTurnedOn = true) (switch : Switch)
    (supply : Supply) (hswitch : switch.controller = controller) :
    Told controller language (moment :: past) (switch.set supply true document).1 := by
  subst hswitch
  have hlatest := latest_cons hgiving past
  have hpast : turnedOnSince (moment :: past) ≠ false := by
    rw [turnedOnSince_cons hgiving, hturned, Bool.true_or]
    exact Bool.false_ne_true.symm
  have hlanguage := switch.language_set supply true document
  have hparsers := switch.parsers_set supply true document
  cases h with
  | dark hl hlang ho hv =>
    have hunlit : document.highlight = none := Option.map_eq_none_iff.mp hv
    rw [switch.set_on_unlit supply hunlit]
    exact .dark (hlatest.trans hl) hlang (by rw [Switch.flag, ho]) hv
  | @plain giving hl hlang hp ho hv =>
    cases hlookup : switch.controller.registry.lookup language with
    | none =>
      rw [switch.set_on_unregistered supply hlang hlookup]
      exact .plain (hlatest.trans hl) hlang hp (by rw [Switch.flag, ho]) hv
    | some overlay =>
      have hsaved : document.overlay.saved.getD giving.rest = giving.rest := by
        rw [ho]
        rfl
      obtain ⟨next, hnext, hoverlay, happlied⟩ :=
        set_on_of_lookup switch supply hlang hp hv hlookup hsaved
      exact .dimmed (hlatest.trans hl) (hlanguage.trans hlang) (hparsers ▸ hp) hlookup
        (by rw [hoverlay]) hnext (fun _ => happlied) (fun hfalse => absurd hfalse hpast)
  | @dimmed giving overlay live hl hlang hp hlookup ho hv _ _ =>
    have hsaved : document.overlay.saved.getD live = giving.rest := by
      rw [ho]
      rfl
    obtain ⟨next, hnext, hoverlay, happlied⟩ :=
      set_on_of_lookup switch supply hlang hp hv hlookup hsaved
    exact .dimmed (hlatest.trans hl) (hlanguage.trans hlang) (hparsers ▸ hp) hlookup
      (by rw [hoverlay]) hnext (fun _ => happlied) (fun hfalse => absurd hfalse hpast)

/-- Turning the switch off makes live what is saved, if anything is. -/
theorem live?_set_off (switch : Switch) (supply : Supply) {live : Snapshot}
    (hlive : live? document = some live) :
    live? (switch.set supply false document).1 = some (document.overlay.saved.getD live) := by
  obtain ⟨state, hstate, rfl⟩ := Option.map_eq_some_iff.mp hlive
  rw [live?, switch.highlight_set_off, hstate]
  cases document.overlay.saved with
  | none => rfl
  | some saved => rfl

/-- Turning the switch off leaves, or makes live again, what the latest giving rests on. -/
theorem turnOff (h : Told controller language past document) {moment : Moment}
    (hgiving : moment.giving? = none) (switch : Switch) (supply : Supply) :
    Told controller language (moment :: past) (switch.set supply false document).1 := by
  have hlatest := latest_cons hgiving past
  have hlanguage := switch.language_set supply false document
  have hparsers := switch.parsers_set supply false document
  have hoverlay := switch.overlay_set_off supply document
  cases h with
  | dark hl hlang ho hv =>
    refine .dark (hlatest.trans hl) (hlanguage.trans hlang) (by rw [hoverlay]) ?_
    rw [live?, switch.highlight_set_off, Option.map_eq_none_iff.mp hv]
    rfl
  | @plain giving hl hlang hp ho hv =>
    have hsaved : document.overlay.saved.getD giving.rest = giving.rest := by
      rw [ho]
      rfl
    exact .plain (hlatest.trans hl) (hlanguage.trans hlang) (hparsers ▸ hp) (by rw [hoverlay])
      (by rw [live?_set_off switch supply hv, hsaved])
  | @dimmed giving overlay live hl hlang hp hlookup ho hv _ _ =>
    have hsaved : document.overlay.saved.getD live = giving.rest := by
      rw [ho]
      rfl
    exact .plain (hlatest.trans hl) (hlanguage.trans hlang) (hparsers ▸ hp) (by rw [hoverlay])
      (by rw [live?_set_off switch supply hv, hsaved])

variable [ParseEngine]

/-- Whether or not the text can be parsed, the past tells what is live and what is saved once highlighting
was to be turned on. -/
theorem highlight (h : Told controller language past document) (rules : Shared RuleSet)
    (features : Shared FeatureList) (level : Nat) :
    Told controller language ((Act.highlight rules features level).moment document :: past)
      (document.enableHighlighting rules features level).2 := by
  rcases document.enableHighlighting_cases rules features level with
    ⟨hnone, -⟩ | ⟨_, -, ⟨-, hlit⟩ | ⟨tree, -, hlit⟩⟩
  · cases h with
    | dark _ hlang => exact nomatch hnone.symm.trans hlang
    | plain _ hlang => exact nomatch hnone.symm.trans hlang
    | dimmed _ hlang => exact nomatch hnone.symm.trans hlang
  · rw [Act.moment, hlit]
    exact h.of_alike rfl rfl rfl Iff.rfl rfl rfl
  · rw [Act.moment, hlit]
    exact h.lit _ rules features level

/-- An edit changes nothing of what the past tells, whatever becomes of it. -/
theorem edited (h : Told controller language past document) {outcome : Document.Outcome Unit}
    (hedited : document.Edited outcome) : Told controller language (.other :: past) outcome.2 := by
  have hlive : live? outcome.2 = live? document := by rw [live?, hedited.highlight_eq, live?]
  exact h.of_alike rfl rfl hedited.language_eq hedited.parsers_eq_nil hedited.overlay_eq hlive

/-- What the past tells of a document, it tells after any act. -/
theorem step {switch : Switch} {stage : Stage}
    (h : Told switch.controller language stage.past stage.document) (act : Act) :
    Told switch.controller language (stage.step switch act).past (stage.step switch act).document := by
  cases hturn : act.turn? stage.document with
  | some on =>
    obtain ⟨hgiving, hturned⟩ := Act.giving?_moment hturn
    simp only [Stage.step, Act.perform_of_turn? hturn]
    cases on with
    | true => exact h.turnOn hgiving hturned switch stage.supply rfl
    | false => exact h.turnOff hgiving switch stage.supply
  | none =>
    cases act with
    | highlight rules features level => exact h.highlight rules features level
    | set on => cases hturn
    | toggle => cases hturn
    | setLevel level =>
      have hparsers := stage.document.parsers_setLevel level
      have hlive : live? (stage.document.setLevel level).2 = live? stage.document := by
        rw [live?, stage.document.highlight_setLevel, Option.map_map]
        rfl
      exact h.of_alike rfl rfl (stage.document.language_setLevel level)
        (Iff.of_eq (congrArg (· = []) hparsers)) (stage.document.overlay_setLevel level) hlive
    | insert index text => exact h.edited (stage.document.edited_insert index text)
    | delete start stop => exact h.edited (stage.document.edited_delete start stop)

/-- What the past tells of a document, it tells throughout a run. -/
theorem run {switch : Switch} {stage : Stage}
    (h : Told switch.controller language stage.past stage.document) (acts : List Act) :
    Told switch.controller language (stage.run switch acts).past (stage.run switch acts).document := by
  induction acts generalizing stage with
  | nil => exact h
  | cons act acts ih => exact ih (h.step act)

end Told

/-- When the overlay is applied to a document with a language, and what giving it up brings back, in
every run.
While a snapshot is held, live are the saved rules with the overlay behind them, and the overlay's
feature is in the top tier, exactly when the switch was turned on since highlighting was turned on last,
or when the values that were given then happen to be just that.
When the switch is turned off over a snapshot, the snapshot is live again. It holds the values that
highlighting was turned on with last exactly when no snapshot was held just then, or when those values
were the ones that it held. -/
theorem applied_overlay_iff [ParseEngine] (switch : Switch) (language : Language) (id : DocumentId)
    (buffer : Buffer) (name : String) (supply : Supply) (acts : List Act) (act : Act) :
    let stage := Stage.run switch ⟨Document.ofBuffer id buffer name (some language), supply, []⟩ acts
    let next := stage.step switch act
    stage.document.overlay.hasSnapshot = true →
      ∃ (giving : Giving) (overlay : Shared RuleSet) (saved live : Snapshot),
        latest stage.past = some giving ∧
        switch.controller.registry.lookup language = some overlay ∧
        stage.document.overlay.saved = some saved ∧ live? stage.document = some live ∧
        (Applied overlay switch.controller.feature saved live ↔
          turnedOnSince stage.past = true ∨
            Applied overlay switch.controller.feature saved giving.given) ∧
        (act.turn? stage.document = some false →
          next.document.overlay.isClear = true ∧ live? next.document = some saved ∧
          (saved = giving.given ↔ giving.held = none ∨ giving.held = some giving.given)) := by
  intro stage next hsnapshot
  have htold : Told switch.controller language stage.past stage.document :=
    Told.run (.dark rfl rfl rfl rfl) acts
  cases htold with
  | dark _ _ hoverlay _ =>
    rw [hoverlay] at hsnapshot
    cases hsnapshot
  | plain _ _ _ hoverlay _ =>
    rw [hoverlay] at hsnapshot
    cases hsnapshot
  | @dimmed giving overlay live hlatest _ _ hlookup hoverlay hlive happlied hbare =>
    have hsaved : stage.document.overlay.saved = some giving.rest := by
      rw [hoverlay]
      rfl
    refine ⟨giving, overlay, giving.rest, live, hlatest, hlookup, hsaved, hlive, ?_, ?_⟩
    · cases hturned : turnedOnSince stage.past with
      | true =>
        obtain ⟨hrules, hfeatures⟩ := happlied hturned
        exact ⟨fun _ => Or.inl rfl, fun _ => applied_of_eq hrules hfeatures⟩
      | false =>
        rw [hbare hturned]
        exact ⟨Or.inr, fun h => h.resolve_left Bool.false_ne_true⟩
    · intro hturn
      have hnext : next.document = (switch.set stage.supply false stage.document).1 :=
        congrArg Prod.fst (Act.perform_of_turn? hturn switch stage.supply)
      have hclear : next.document.overlay = ⟨false, none, none⟩ := by
        rw [hnext]
        exact switch.overlay_set_off stage.supply stage.document
      refine ⟨by rw [hclear]; rfl, ?_, ?_⟩
      · rw [hnext, Told.live?_set_off switch stage.supply hlive, hsaved]
        rfl
      · unfold Giving.rest
        cases giving.held with
        | none => simp
        | some held => simp

/-! ## Highlighting turned on over a snapshot -/

/-- A rule with a given identity. -/
def plainRule (stamp : Nat) : Rule := ⟨stamp, "", .deemphasis, .overlay, .json, ⟨⟨[], []⟩, 0⟩⟩

/-- The overlay of texts in JSON: one rule. -/
def plainOverlay : Shared RuleSet := ⟨5, ⟨[plainRule 5]⟩⟩

/-- The switch of that overlay. -/
def plainSwitch : Switch := ⟨⟨⟨[(.json, plainOverlay)]⟩, .overlay⟩, " Recede"⟩

/-- Values without rules. -/
def firstGiven : Snapshot := ⟨⟨0, .empty⟩, ⟨0, ⟨[[⟨"comment"⟩]]⟩⟩⟩

/-- Values with a rule. -/
def secondGiven : Snapshot := ⟨⟨1, ⟨[plainRule 1]⟩⟩, ⟨1, ⟨[[⟨"comment"⟩]]⟩⟩⟩

/-- A document in JSON after highlighting was turned on, and the switch. -/
def dimmedStage : Stage :=
  Stage.run plainSwitch
    ⟨Document.ofBuffer ⟨0⟩ (Buffer.ofText "1") "Untitled" (some .json), ⟨6⟩, []⟩
    [.highlight firstGiven.rules firstGiven.features 3, .set true]

/-- The same document after highlighting was turned on once more. -/
def forgetfulStage : Stage :=
  dimmedStage.step plainSwitch (.highlight secondGiven.rules secondGiven.features 3)

/-- While highlighting is not turned on once more, the overlay is applied, and giving it up brings back
what was given. -/
theorem applied_overlay_iff_dimmed :
    dimmedStage.document.overlay.hasSnapshot = true ∧
      ∃ live, live? dimmedStage.document = some live ∧
        Applied plainOverlay .overlay firstGiven live ∧
        live? (dimmedStage.step plainSwitch (.set false)).document = some firstGiven := by
  refine ⟨rfl, ?_⟩
  obtain ⟨giving, overlay, saved, live, hlatest, hlookup, hsaved, hlive, happlied, hback⟩ :=
    applied_overlay_iff plainSwitch .json ⟨0⟩ (Buffer.ofText "1") "Untitled" ⟨6⟩
      [.highlight firstGiven.rules firstGiven.features 3, .set true] (.set false) rfl
  have hoverlay : plainOverlay = overlay := Option.some.inj hlookup
  have hfirst : firstGiven = saved := Option.some.inj hsaved
  subst hoverlay hfirst
  exact ⟨live, hlive, happlied.mpr (Or.inl rfl), (hback rfl).2.1⟩

/-- Once highlighting is turned on over the snapshot, the snapshot is still held and the overlay is not
applied; and giving it up does not bring back what was given last. -/
theorem applied_overlay_forgotten :
    forgetfulStage.document.overlay.saved = some firstGiven ∧
      live? forgetfulStage.document = some secondGiven ∧
      ¬ Applied plainOverlay .overlay firstGiven secondGiven ∧
      live? (forgetfulStage.step plainSwitch (.set false)).document = some firstGiven := by
  refine ⟨rfl, rfl, ?_, rfl⟩
  rintro ⟨hrules, -⟩
  cases hrules

end Dimming.Proofs.AppliedOverlay
