import Dimming.Proofs.Buffers.Edits
import Dimming.Proofs.Overlay.Lawful

/-!
# What the operations of a document change

The overlay and the highlight level leave alone what else makes up a document: identity, text, name,
language and parsers. What they write is told exactly. A document that takes the overlay starts over
from the saved values with the overlay on top, one that gives it up starts over from the saved values,
and in both cases at the level it had. An edit replaces the text and brings the trees up to date, and
leaves alone all that the overlay works on.
-/

set_option autoImplicit false

namespace Dimming

open WatchedHost

/-- What neither the overlay nor the highlight level touches. -/
structure DocumentBody where
  id : DocumentId
  buffer : Buffer
  name : String
  language : Option Language
  parsers : List Parser

namespace Document

/-- What neither the overlay nor the highlight level touches. -/
def body (document : Document) : DocumentBody where
  id := document.id
  buffer := document.buffer
  name := document.name
  language := document.language
  parsers := document.parsers

/-- The highlight level, if there is highlighting. -/
def level? (document : Document) : Option Nat := document.highlight.map (·.level)

/-- A view and the enabled features tell the live highlighting. -/
theorem highlight_of_view {document : Document} {rules : Shared RuleSet}
    {features : Shared FeatureList} (hrules : (view document).rules = some rules)
    (hfeatures : (view document).features = some features) :
    document.highlight = some ⟨rules, features, (view document).level, effective document⟩ := by
  cases hstate : document.highlight with
  | none => simp [view, Host.rules, hstate] at hrules
  | some state =>
    simp only [view, Host.rules, Host.features, hstate, Option.map_some, Option.some.injEq]
      at hrules hfeatures
    subst hrules hfeatures
    simp [view, WatchedHost.level, effective, hstate]

/-- A document with empty slots. -/
def emptied (document : Document) : Document :=
  { document with overlay := { document.overlay with savedRules := none, savedFeatures := none } }

/-- A document of which the enabled features are computed again and a repaint is asked for, if it has
highlighting. -/
def relit (document : Document) : Document :=
  if document.highlight.isSome then (document.mapHighlight Highlight.recompute).requestRepaint
  else document

/-- Lighting a document anew leaves its body alone. -/
theorem body_relit (document : Document) : document.relit.body = document.body := by
  unfold relit
  split <;> rfl

/-- Lighting a document anew leaves the overlay's record alone. -/
theorem overlay_relit (document : Document) : document.relit.overlay = document.overlay := by
  unfold relit
  split <;> rfl

/-- Lighting a document anew computes the enabled features. -/
theorem highlight_relit (document : Document) :
    document.relit.highlight = document.highlight.map Highlight.recompute := by
  unfold relit
  split
  · rfl
  · next h =>
    rw [Option.not_isSome_iff_eq_none] at h
    rw [h]
    rfl

end Document

namespace Controller

variable (controller : Controller) (supply : Supply) (document : Document)

/-- A lit document with a parser takes the overlay of its language, when that is registered. -/
theorem available_document {language : Language} (hlit : document.highlight.isSome = true)
    (hparsers : document.parsers ≠ []) (hlanguage : document.language = some language) :
    controller.available document = controller.registry.lookup language := by
  have hcount : document.parsers.length ≠ 0 := fun h => hparsers (List.length_eq_zero_iff.mp h)
  simp [available, Host.hasHighlight, Host.parserCount, Host.language, hlit, hcount, hlanguage]

/-- A document without highlighting takes no overlay. -/
theorem available_unlit (hunlit : document.highlight = none) :
    controller.available document = none := by
  simp [available, Host.hasHighlight, hunlit]

/-- Where no overlay is to be had, enabling does nothing. -/
theorem enable_of_unavailable (h : controller.available document = none) :
    controller.enable supply document = (false, document, supply) := by
  unfold enable
  rw [h]

/-- Enabling leaves the body of a document alone. -/
theorem body_enable : (controller.enable supply document).2.1.body = document.body := by
  rcases enable_cases controller supply document with
    ⟨overlay, rules, features, -, -, -, henable⟩ | henable
  · rw [henable]
    rfl
  · rw [henable]

/-- Enabling lights no document and puts no light out. -/
theorem isSome_highlight_enable :
    (controller.enable supply document).2.1.highlight.isSome = document.highlight.isSome := by
  rcases enable_cases controller supply document with
    ⟨overlay, rules, features, -, -, -, henable⟩ | henable
  · rw [henable]
    simp [apply, Host.requestRepaint, Host.recompute, Host.setFeatures, Host.setRules,
      Host.setOverlay, Document.mapHighlight, Document.requestRepaint]
  · rw [henable]

/-- A document that takes the overlay starts over, at its level, from the saved values with the overlay
on top; saved are the values that were saved before, or else the live ones. -/
theorem enable_document {overlay : Shared RuleSet} {state : Highlight}
    (h : controller.available document = some overlay) (hstate : document.highlight = some state) :
    let saved := document.overlay.saved.getD ⟨state.rules, state.features⟩
    let after := (controller.enable supply document).2.1
    (controller.enable supply document).1 = true ∧
    after.overlay = ⟨document.overlay.enabled, some saved.rules, some saved.features⟩ ∧
    ∃ (merged : Shared RuleSet) (raised : Shared FeatureList),
      merged.value = saved.rules.value.concat overlay.value ∧
      raised.value = saved.features.value.withTopPriority controller.feature ∧
      after.highlight = some (Highlight.start merged raised state.level) := by
  intro saved after
  have hrules : Host.rules document = some state.rules := by simp [Host.rules, hstate]
  have hfeatures : Host.features document = some state.features := by
    simp [Host.features, hstate]
  have hlevel : level document = state.level := by simp [level, hstate]
  have henable : controller.enable supply document =
      (true, controller.apply supply overlay state.rules state.features document) := by
    unfold enable
    rw [h, hrules, hfeatures]
  obtain ⟨merged, raised, hmerged, hraised, hview, heffective⟩ :=
    apply_view controller supply overlay state.rules state.features document
      (by simp [Host.hasHighlight, hstate])
  have hafter : after =
      (controller.apply supply overlay state.rules state.features document).1 := by
    simp only [after, henable]
  rw [← hafter] at hview heffective
  have hview_level : (view after).level = state.level := (congrArg HostView.level hview).trans hlevel
  refine ⟨by rw [henable], congrArg HostView.overlay hview, merged, raised, hmerged, hraised, ?_⟩
  rw [Document.highlight_of_view (congrArg HostView.rules hview)
    (congrArg HostView.features hview), hview_level, heffective, hlevel]
  rfl

/-- Disabling a document ends with lighting it anew. -/
theorem disable_eq_relit :
    disable document = ((restore document).1, (restore document).2.relit) := by
  have hdisable : disable document =
      if (restore document).2.highlight.isSome then
        ((restore document).1, Host.requestRepaint (Host.recompute (restore document).2))
      else restore document := rfl
  rw [hdisable]
  unfold Document.relit
  split <;> rfl

/-- Disabling empties the slots, makes live again what was in them, and lights the document anew. -/
theorem disable_cases :
    (∃ saved, document.overlay.saved = some saved ∧
      disable document =
        (true, (document.emptied.mapHighlight
          ({ · with rules := saved.rules, features := saved.features })).relit)) ∨
    (document.overlay.saved = none ∧ disable document = (false, document.emptied.relit)) := by
  rw [disable_eq_relit]
  cases hsaved : document.overlay.saved with
  | none =>
    have hrestore : restore document = (false, document.emptied) := by
      simp only [restore, Host.overlay, OverlayRecord.takeBack, hsaved]
      rfl
    exact Or.inr ⟨rfl, by rw [hrestore]⟩
  | some saved =>
    have hrestore : restore document =
        (true, Host.setFeatures saved.features (Host.setRules saved.rules document.emptied)) := by
      simp only [restore, Host.overlay, OverlayRecord.takeBack, hsaved]
      rfl
    refine Or.inl ⟨saved, rfl, ?_⟩
    rw [hrestore]
    cases hstate : document.highlight <;>
      simp [Host.setFeatures, Host.setRules, Document.mapHighlight, Document.emptied, hstate]

/-- Disabling leaves the body of a document alone. -/
theorem body_disable : (disable document).2.body = document.body := by
  rcases disable_cases document with ⟨saved, -, hdisable⟩ | ⟨-, hdisable⟩
  · rw [hdisable, Document.body_relit]
    rfl
  · rw [hdisable, Document.body_relit]
    rfl

/-- Disabling lights no document and puts no light out. -/
theorem isSome_highlight_disable :
    (disable document).2.highlight.isSome = document.highlight.isSome := by
  rcases disable_cases document with ⟨saved, -, hdisable⟩ | ⟨-, hdisable⟩
  · rw [hdisable, Document.highlight_relit]
    simp [Document.mapHighlight, Document.emptied]
  · rw [hdisable, Document.highlight_relit]
    simp [Document.emptied]

/-- A disabled document has empty slots. -/
theorem overlay_disable :
    (disable document).2.overlay = ⟨document.overlay.enabled, none, none⟩ := by
  rcases disable_cases document with ⟨saved, -, hdisable⟩ | ⟨-, hdisable⟩
  · rw [hdisable, Document.overlay_relit]
    rfl
  · rw [hdisable, Document.overlay_relit]
    rfl

/-- A document with saved values starts over from them, at its level, when it is disabled. -/
theorem disable_of_saved {saved : Snapshot} {state : Highlight}
    (hsaved : document.overlay.saved = some saved) (hstate : document.highlight = some state) :
    (disable document).1 = true ∧
      (disable document).2.highlight =
        some (Highlight.start saved.rules saved.features state.level) := by
  rcases disable_cases document with ⟨other, hother, hdisable⟩ | ⟨hnone, -⟩
  · obtain rfl : saved = other := Option.some.inj (hsaved.symm.trans hother)
    rw [hdisable, Document.highlight_relit]
    simp [Document.mapHighlight, Document.emptied, hstate, Highlight.recompute, Highlight.start]
  · rw [hsaved] at hnone
    cases hnone

/-- A document without saved values keeps its live ones when it is disabled. -/
theorem disable_of_unsaved (hsaved : document.overlay.saved = none) :
    (disable document).1 = false ∧
      (disable document).2.highlight = document.highlight.map Highlight.recompute := by
  rcases disable_cases document with ⟨saved, hsome, -⟩ | ⟨-, hdisable⟩
  · rw [hsaved] at hsome
    cases hsome
  · rw [hdisable, Document.highlight_relit]
    exact ⟨rfl, rfl⟩

end Controller

namespace Switch

variable (switch : Switch) (supply : Supply) (on : Bool) {document : Document}

/-- A switch moves the flag first. -/
def flag (on : Bool) (document : Document) : Document :=
  { document with overlay := { document.overlay with enabled := on } }

/-- A document without highlighting is not changed when the switch is turned on, up to the flag. -/
theorem set_on_unlit (h : document.highlight = none) :
    (switch.set supply true document).1 = flag true document := by
  have hnone := switch.controller.available_unlit (flag true document) h
  have henable := switch.controller.enable_of_unavailable supply (flag true document) hnone
  exact congrArg (fun result => result.2.1) henable

/-- Nor is a document of a language that is not registered. -/
theorem set_on_unregistered {language : Language} (hlanguage : document.language = some language)
    (hlookup : switch.controller.registry.lookup language = none) :
    (switch.set supply true document).1 = flag true document := by
  have hnone : switch.controller.available (flag true document) = none := by
    have hbind : (Host.language (flag true document)).bind switch.controller.registry.lookup =
        none := by
      rw [← hlookup]
      exact congrArg (Option.bind · switch.controller.registry.lookup) hlanguage
    unfold Controller.available
    rw [hbind, ite_self]
  have henable := switch.controller.enable_of_unavailable supply (flag true document) hnone
  exact congrArg (fun result => result.2.1) henable

/-- A lit document of a registered language starts over, at its level, from the saved values with the
overlay on top; saved are the values that were saved before, or else the live ones. -/
theorem set_on_registered {language : Language} {overlay : Shared RuleSet} {state : Highlight}
    (hlanguage : document.language = some language) (hparsers : document.parsers ≠ [])
    (hstate : document.highlight = some state)
    (hlookup : switch.controller.registry.lookup language = some overlay) :
    let saved := document.overlay.saved.getD ⟨state.rules, state.features⟩
    let after := (switch.set supply true document).1
    after.overlay = ⟨true, some saved.rules, some saved.features⟩ ∧
    ∃ (merged : Shared RuleSet) (raised : Shared FeatureList),
      merged.value = saved.rules.value.concat overlay.value ∧
      raised.value = saved.features.value.withTopPriority switch.controller.feature ∧
      after.highlight = some (Highlight.start merged raised state.level) := by
  have hlit : (flag true document).highlight.isSome = true := by
    rw [flag, hstate]
    rfl
  have havailable :=
    switch.controller.available_document (flag true document) hlit hparsers hlanguage
  exact (switch.controller.enable_document supply (flag true document)
    (havailable.trans hlookup) hstate).2

variable (document)

/-- The slots are empty once the switch was turned off. -/
theorem overlay_set_off :
    (switch.set supply false document).1.overlay = ⟨false, none, none⟩ :=
  Controller.overlay_disable (flag false document)

/-- Turning the switch off makes live what is saved, if anything is. -/
theorem highlight_set_off :
    (switch.set supply false document).1.highlight =
      document.highlight.map fun state =>
        match document.overlay.saved with
        | none => state.recompute
        | some saved => Highlight.start saved.rules saved.features state.level := by
  cases hsaved : document.overlay.saved with
  | none => exact (Controller.disable_of_unsaved (flag false document) hsaved).2
  | some saved =>
    cases hstate : document.highlight with
    | none =>
      have hunlit : (Controller.disable (flag false document)).2.highlight.isSome = false :=
        (Controller.isSome_highlight_disable (flag false document)).trans
          (congrArg Option.isSome hstate)
      rw [Option.isSome_eq_false_iff, Option.isNone_iff_eq_none] at hunlit
      exact hunlit
    | some state => exact (Controller.disable_of_saved (flag false document) hsaved hstate).2

/-- A switch leaves the body of a document alone. -/
theorem body_set : (switch.set supply on document).1.body = document.body := by
  cases on with
  | true => exact Controller.body_enable switch.controller supply (flag true document)
  | false => exact Controller.body_disable (flag false document)

/-- A switch leaves the language alone. -/
@[simp]
theorem language_set : (switch.set supply on document).1.language = document.language :=
  congrArg DocumentBody.language (switch.body_set supply on document)

/-- A switch leaves the parsers alone. -/
@[simp]
theorem parsers_set : (switch.set supply on document).1.parsers = document.parsers :=
  congrArg DocumentBody.parsers (switch.body_set supply on document)

/-- A switch lights no document and puts no light out. -/
theorem isSome_highlight_set :
    (switch.set supply on document).1.highlight.isSome = document.highlight.isSome := by
  cases on with
  | true => exact Controller.isSome_highlight_enable switch.controller supply (flag true document)
  | false => exact Controller.isSome_highlight_disable (flag false document)

/-- A switch is where it was put. -/
theorem isOn_set : isOn (switch.set supply on document).1 = on := by
  cases on with
  | false => exact congrArg OverlayRecord.enabled (switch.overlay_set_off supply document)
  | true =>
    have hset : (switch.set supply true document).1 =
        (switch.controller.enable supply (flag true document)).2.1 := rfl
    rcases switch.controller.enable_cases supply (flag true document) with
      ⟨overlay, rules, features, havailable, -, -, henable⟩ | henable
    · obtain ⟨hlit, -⟩ := switch.controller.available_eq_some _ havailable
      obtain ⟨_, _, -, -, hview, -⟩ :=
        switch.controller.apply_view supply overlay rules features _ hlit
      rw [hset, henable]
      exact congrArg (OverlayRecord.enabled ∘ HostView.overlay) hview
    · rw [hset, henable]
      rfl

/-- A switch leaves the level alone. -/
theorem level?_set : (switch.set supply on document).1.level? = document.level? := by
  cases on with
  | false =>
    unfold Document.level?
    rw [highlight_set_off, Option.map_map]
    congr 1
    funext state
    cases document.overlay.saved <;> simp [Highlight.recompute, Highlight.start]
  | true =>
    cases hstate : document.highlight with
    | none => rw [switch.set_on_unlit supply hstate]; rfl
    | some state =>
      have hset : (switch.set supply true document).1 =
          (switch.controller.enable supply (flag true document)).2.1 := rfl
      cases havailable : switch.controller.available (flag true document) with
      | none =>
        rw [hset, switch.controller.enable_of_unavailable supply _ havailable]
        rfl
      | some overlay =>
        obtain ⟨-, -, _, _, -, -, hhighlight⟩ :=
          switch.controller.enable_document supply _ havailable hstate
        rw [hset, Document.level?, hhighlight, Document.level?, hstate]
        rfl

end Switch

namespace Document

variable (document : Document)

/-- A new level leaves the body of a document alone. -/
@[simp]
theorem body_setLevel (level : Nat) : (document.setLevel level).2.body = document.body := by
  unfold setLevel
  split <;> rfl

/-- A new level leaves the language alone. -/
@[simp]
theorem language_setLevel (level : Nat) :
    (document.setLevel level).2.language = document.language :=
  congrArg DocumentBody.language (document.body_setLevel level)

/-- A new level leaves the parsers alone. -/
@[simp]
theorem parsers_setLevel (level : Nat) :
    (document.setLevel level).2.parsers = document.parsers :=
  congrArg DocumentBody.parsers (document.body_setLevel level)

/-- A new level takes effect at once. -/
@[simp]
theorem highlight_setLevel (level : Nat) :
    (document.setLevel level).2.highlight = document.highlight.map (·.setLevel level) := by
  unfold setLevel
  split
  · next h => rw [h]; rfl
  · next state h => rw [h]; rfl

/-- A new level leaves the overlay's record alone. -/
@[simp]
theorem overlay_setLevel (level : Nat) : (document.setLevel level).2.overlay = document.overlay := by
  unfold setLevel
  split <;> rfl

/-! ## Turning highlighting on -/

/-- A document once highlighting is on: a parser that holds a tree, and what was given is live. -/
def lit (parser : Parser) (rules : Shared RuleSet) (features : Shared FeatureList) (level : Nat) :
    Document :=
  { document with
    parsers := [parser]
    highlight := some (Highlight.start rules features level) }.requestRepaint

section Engine

variable [ParseEngine]

/-- What turning highlighting on comes to. Without a language nothing happens; with one, the text is given up
and nothing changes, or there is a parser with its tree, and what was given is live. -/
theorem enableHighlighting_cases (rules : Shared RuleSet) (features : Shared FeatureList) (level : Nat) :
    (document.language = none ∧
      document.enableHighlighting rules features level = (.ok (), document)) ∨
    ∃ language, document.language = some language ∧
      ((ParseEngine.first? language document.buffer.chars = none ∧
          document.enableHighlighting rules features level =
            (.error (.language .notParsed), document)) ∨
        ∃ tree, ParseEngine.first? language document.buffer.chars = some tree ∧
          document.enableHighlighting rules features level =
            (.ok (), document.lit ⟨language, some tree, []⟩ rules features level)) := by
  cases hlanguage : document.language with
  | none => exact Or.inl ⟨rfl, by simp only [enableHighlighting, hlanguage]⟩
  | some language =>
    refine Or.inr ⟨language, rfl, ?_⟩
    cases haccepts : ParseEngine.accepts language with
    | false =>
      refine Or.inl ⟨?_, ?_⟩
      · simp [ParseEngine.first?, haccepts]
      · simp [enableHighlighting, hlanguage, Parser.ofLanguage, haccepts]
    | true =>
      cases hread : ParseEngine.read language none document.buffer.chars with
      | none =>
        refine Or.inl ⟨?_, ?_⟩
        · simp [ParseEngine.first?, haccepts, hread]
        · simp [enableHighlighting, hlanguage, Parser.ofLanguage, Parser.parse, Parser.fresh, haccepts,
            hread]
      | some tree =>
        refine Or.inr ⟨tree, ?_, ?_⟩
        · simp [ParseEngine.first?, haccepts, hread]
        · simp [enableHighlighting, lit, hlanguage, Parser.ofLanguage, Parser.parse, Parser.fresh,
            haccepts, hread]

/-- What a new parser reads is read without a former tree. -/
theorem read_of_first? {language : Language} {text : List Char} {tree : Tree}
    (h : ParseEngine.first? language text = some tree) :
    ParseEngine.read language none text = some tree := by
  unfold ParseEngine.first? at h
  split at h
  · exact h
  · cases h

/-! ## Edits -/

/-- What bringing the trees up to date comes to. It is not needed, or all parsers read the new text and a
repaint is asked for, or one of them gives the text up. -/
theorem reparse_cases (edit : Edit) :
    ((document.parsers = [] ∨ edit.isEmpty = true) ∧ document.reparse edit = (.ok (), document)) ∨
    ∃ answer parsers, document.parsers ≠ [] ∧ edit.isEmpty = false ∧
      Parser.parseAllAfter edit document.buffer.chars document.parsers = (answer, parsers) ∧
      ((answer = .ok () ∧
          document.reparse edit = (.ok (), ({ document with parsers } : Document).requestRepaint)) ∨
        ∃ cause, answer = .error cause ∧
          document.reparse edit = (.error (.language cause), { document with parsers })) := by
  unfold reparse
  by_cases hskip : (document.parsers.isEmpty || edit.isEmpty) = true
  · rw [if_pos hskip]
    rw [Bool.or_eq_true, List.isEmpty_iff] at hskip
    exact Or.inl ⟨hskip, rfl⟩
  · rw [if_neg hskip]
    rw [Bool.or_eq_true, List.isEmpty_iff, not_or, Bool.not_eq_true] at hskip
    refine Or.inr ⟨_, _, hskip.1, hskip.2, rfl, ?_⟩
    rcases Parser.parseAllAfter edit document.buffer.chars document.parsers with ⟨answer, parsers⟩
    cases answer with
    | error cause => exact Or.inr ⟨cause, rfl, rfl⟩
    | ok answer => exact Or.inl ⟨rfl, rfl⟩

/-- Bringing the trees up to date does not fail in the buffer. -/
theorem reparse_ne_buffer (edit : Edit) (cause : BufferError) :
    (document.reparse edit).1 ≠ .error (.buffer cause) := by
  rcases document.reparse_cases edit with ⟨-, h⟩ | ⟨_, _, -, -, -, ⟨-, h⟩ | ⟨_, -, h⟩⟩ <;>
    (rw [h]; exact nofun)

/-- Bringing the trees up to date touches nothing but the parsers and the wish for a repaint. -/
theorem exists_reparse_eq (edit : Edit) : ∃ parsers pending outbox,
    (document.reparse edit).2 =
      { document with parsers := parsers, repaintPending := pending, outbox := outbox } := by
  rcases document.reparse_cases edit with ⟨-, h⟩ | ⟨_, parsers, -, -, -, ⟨-, h⟩ | ⟨_, -, h⟩⟩
  · exact ⟨document.parsers, document.repaintPending, document.outbox, by rw [h]⟩
  · exact ⟨parsers, true, document.outbox.map (· ++ [.repaintRequested document.id]), by rw [h]; rfl⟩
  · exact ⟨parsers, document.repaintPending, document.outbox, by rw [h]⟩

/-- Bringing the trees up to date changes nothing of the body but the parsers. -/
theorem body_reparse (edit : Edit) :
    (document.reparse edit).2.body =
      { document.body with parsers := (document.reparse edit).2.parsers } := by
  obtain ⟨_, _, _, h⟩ := document.exists_reparse_eq edit
  rw [h]
  rfl

/-- Bringing the trees up to date leaves the live highlighting alone. -/
@[simp]
theorem highlight_reparse (edit : Edit) :
    (document.reparse edit).2.highlight = document.highlight := by
  obtain ⟨_, _, _, h⟩ := document.exists_reparse_eq edit
  rw [h]

/-- Bringing the trees up to date leaves the overlay's record alone. -/
@[simp]
theorem overlay_reparse (edit : Edit) : (document.reparse edit).2.overlay = document.overlay := by
  obtain ⟨_, _, _, h⟩ := document.exists_reparse_eq edit
  rw [h]

/-- Each parser is told of the edit, or reads the new text, or is left alone; its language stays, and it
holds a tree if it held one. -/
theorem mem_parseAllAfter {edit : Edit} {text : List Char} {parsers : List Parser} {parser : Parser}
    (h : parser ∈ (Parser.parseAllAfter edit text parsers).2) :
    ∃ former ∈ parsers, parser.language = former.language ∧
      (former.tree.isSome = true → parser.tree.isSome = true) := by
  induction parsers with
  | nil => cases h
  | cons first rest ih =>
    have hfirst : (first.parseAfter edit text).2.language = first.language ∧
        (first.tree.isSome = true → (first.parseAfter edit text).2.tree.isSome = true) := by
      unfold Parser.parseAfter Parser.parse
      split
      · exact ⟨rfl, fun htree => by simpa [Parser.tell] using htree⟩
      · exact ⟨rfl, fun _ => rfl⟩
    rw [Parser.parseAllAfter] at h
    rcases hread : first.parseAfter edit text with ⟨answer, after⟩
    rw [hread] at h hfirst
    cases answer with
    | error cause =>
      rcases List.mem_cons.mp h with rfl | hmem
      · exact ⟨first, List.mem_cons_self, hfirst⟩
      · exact ⟨parser, List.mem_cons_of_mem first hmem, rfl, fun htree => htree⟩
    | ok answer =>
      rcases List.mem_cons.mp h with rfl | hmem
      · exact ⟨first, List.mem_cons_self, hfirst⟩
      · obtain ⟨former, hformer, hkept⟩ := ih hmem
        exact ⟨former, List.mem_cons_of_mem first hformer, hkept⟩

/-- There are as many parsers after the reading as before it. -/
theorem length_parseAllAfter (edit : Edit) (text : List Char) (parsers : List Parser) :
    (Parser.parseAllAfter edit text parsers).2.length = parsers.length := by
  induction parsers with
  | nil => rfl
  | cons first rest ih =>
    rw [Parser.parseAllAfter]
    rcases first.parseAfter edit text with ⟨answer, after⟩
    cases answer with
    | error cause => rfl
    | ok answer => exact congrArg (· + 1) ih

/-- Bringing the trees up to date leaves the parsers alone, or has them read the new text. -/
theorem parsers_reparse (edit : Edit) :
    (document.reparse edit).2.parsers = document.parsers ∨
      (document.reparse edit).2.parsers =
        (Parser.parseAllAfter edit document.buffer.chars document.parsers).2 := by
  rcases document.reparse_cases edit with ⟨-, h⟩ | ⟨_, _, -, -, hread, ⟨-, h⟩ | ⟨_, -, h⟩⟩
  · rw [h]
    exact Or.inl rfl
  · rw [h, hread]
    exact Or.inr rfl
  · rw [h, hread]
    exact Or.inr rfl

/-- Bringing the trees up to date brings no parser and takes none away. -/
theorem parsers_reparse_eq_nil (edit : Edit) :
    (document.reparse edit).2.parsers = [] ↔ document.parsers = [] := by
  have hlength : (document.reparse edit).2.parsers.length = document.parsers.length := by
    rcases document.parsers_reparse edit with h | h
    · rw [h]
    · rw [h, length_parseAllAfter]
  rw [← List.length_eq_zero_iff, hlength, List.length_eq_zero_iff]

/-- What an edit of a document comes to. -/
inductive Edited (document : Document) : Outcome Unit → Prop where
  /-- The buffer refuses the edit, and nothing changes. -/
  | refused (cause : BufferError) : Edited document (.error (.buffer cause), document)
  /-- The buffer takes the edit and reports it, and the trees are brought up to date as far as that
  goes. -/
  | taken {edit : Edit} {buffer : Buffer} {front old new back : List Char}
      (h : document.buffer.Replaces edit buffer front old new back)
      (hpath : buffer.path = document.buffer.path) :
      Edited document (({ document with buffer } : Document).reparse edit)

/-- An insertion is an edit. -/
theorem edited_insert (index : Nat) (text : String) :
    Edited document (document.insert index text) := by
  unfold insert
  split
  · exact .refused _
  · next hbuffer => exact .taken (Buffer.replaces_insert hbuffer) (Buffer.path_insert hbuffer)

/-- A deletion is an edit. -/
theorem edited_delete (start stop : Nat) : Edited document (document.delete start stop) := by
  unfold delete
  split
  · exact .refused _
  · next hbuffer => exact .taken (Buffer.replaces_delete hbuffer) (Buffer.path_delete hbuffer)

namespace Edited

variable {document : Document} {outcome : Outcome Unit}

/-- An edit changes nothing of the body but the buffer and the parsers. -/
theorem body_eq (h : Edited document outcome) :
    outcome.2.body =
      { document.body with buffer := outcome.2.buffer, parsers := outcome.2.parsers } := by
  cases h with
  | refused cause => rfl
  | @taken edit buffer _ _ _ _ _ _ =>
    have hbody := Document.body_reparse { document with buffer } edit
    have hbuffer : (Document.reparse { document with buffer } edit).2.buffer = buffer :=
      congrArg DocumentBody.buffer hbody
    rw [hbuffer]
    exact hbody

/-- An edit leaves the identity alone. -/
theorem id_eq (h : Edited document outcome) : outcome.2.id = document.id :=
  congrArg DocumentBody.id h.body_eq

/-- An edit leaves the path alone. -/
theorem path_eq (h : Edited document outcome) : outcome.2.buffer.path = document.buffer.path := by
  cases h with
  | refused cause => rfl
  | @taken edit buffer _ _ _ _ _ hpath =>
    have hbuffer : (Document.reparse { document with buffer } edit).2.buffer = buffer :=
      congrArg DocumentBody.buffer (Document.body_reparse { document with buffer } edit)
    rw [hbuffer, hpath]

/-- An edit leaves the language alone. -/
theorem language_eq (h : Edited document outcome) : outcome.2.language = document.language :=
  congrArg DocumentBody.language h.body_eq

/-- An edit brings no parser and takes none away. -/
theorem parsers_eq_nil (h : Edited document outcome) :
    outcome.2.parsers = [] ↔ document.parsers = [] := by
  cases h with
  | refused cause => rfl
  | @taken edit buffer _ _ _ _ _ _ => exact parsers_reparse_eq_nil _ edit

/-- Each parser after an edit was one before; its language stays, and it holds a tree if it held one. -/
theorem exists_former (h : Edited document outcome) {parser : Parser}
    (hparser : parser ∈ outcome.2.parsers) :
    ∃ former ∈ document.parsers, parser.language = former.language ∧
      (former.tree.isSome = true → parser.tree.isSome = true) := by
  cases h with
  | refused cause => exact ⟨parser, hparser, rfl, fun htree => htree⟩
  | @taken edit buffer _ _ _ _ _ _ =>
    rcases Document.parsers_reparse { document with buffer } edit with h | h
    · exact ⟨parser, h ▸ hparser, rfl, fun htree => htree⟩
    · exact mem_parseAllAfter (h ▸ hparser)

/-- An edit leaves the live highlighting alone. -/
theorem highlight_eq (h : Edited document outcome) : outcome.2.highlight = document.highlight := by
  cases h with
  | refused cause => rfl
  | @taken edit buffer _ _ _ _ _ _ => exact highlight_reparse _ edit

/-- An edit leaves the overlay's record alone. -/
theorem overlay_eq (h : Edited document outcome) : outcome.2.overlay = document.overlay := by
  cases h with
  | refused cause => rfl
  | @taken edit buffer _ _ _ _ _ _ => exact overlay_reparse _ edit

/-- An edit announces nothing, or that a repaint is asked for. -/
theorem outbox_eq (h : Edited document outcome) :
    outcome.2.outbox = document.outbox ∨
      outcome.2.outbox = document.outbox.map (· ++ [.repaintRequested document.id]) := by
  cases h with
  | refused cause => exact Or.inl rfl
  | @taken edit buffer _ _ _ _ _ _ =>
    rcases Document.reparse_cases { document with buffer } edit with
      ⟨-, h⟩ | ⟨_, _, -, -, -, ⟨-, h⟩ | ⟨_, -, h⟩⟩
    · rw [h]
      exact Or.inl rfl
    · rw [h]
      exact Or.inr rfl
    · rw [h]
      exact Or.inl rfl

end Edited

/-- An insertion fails in the buffer when the index is behind the text. -/
theorem insert_buffer_error {index : Nat} {text : String} {cause : BufferError} :
    (document.insert index text).1 = .error (.buffer cause) ↔
      document.buffer.charCount < index ∧ cause = .invalidCharIndex index := by
  unfold insert Buffer.insert
  by_cases h : index > document.buffer.charCount
  · rw [if_pos h]
    simp [h, eq_comm]
  · rw [if_neg h]
    simp [h, reparse_ne_buffer]

/-- A deletion fails in the buffer when the range runs backwards or leaves the text. -/
theorem delete_buffer_error {start stop : Nat} {cause : BufferError} :
    (document.delete start stop).1 = .error (.buffer cause) ↔
      (stop < start ∨ document.buffer.charCount < stop) ∧ cause = .invalidRange start stop := by
  unfold delete Buffer.delete
  by_cases h : start > stop ∨ stop > document.buffer.charCount
  · rw [if_pos h]
    simp [h, eq_comm]
  · rw [if_neg h]
    simp [h, reparse_ne_buffer]

/-! ## Under a reliable engine -/

variable [ReliableEngine]

/-- A reliable engine reads every text for a new parser. -/
theorem exists_first? (language : Language) (text : List Char) :
    ∃ tree, ParseEngine.first? language text = some tree := by
  unfold ParseEngine.first?
  rw [if_pos (ReliableEngine.accepts_all language)]
  exact Option.isSome_iff_exists.mp (ReliableEngine.read_isSome language none text)

/-- Under a reliable engine no parser gives an edited text up. -/
theorem parseAllAfter_ok (edit : Edit) (text : List Char) (parsers : List Parser) :
    (Parser.parseAllAfter edit text parsers).1 = .ok () := by
  induction parsers with
  | nil => rfl
  | cons parser rest ih =>
    obtain ⟨tree, htree⟩ := Option.isSome_iff_exists.mp
      (ReliableEngine.read_isSome parser.language (parser.tell edit).tree text)
    have hread : parser.parseAfter edit text =
        (.ok (), { parser.tell edit with tree := some tree }) := by
      unfold Parser.parseAfter Parser.parse
      rw [show (parser.tell edit).language = parser.language from rfl, htree]
      rfl
    rw [Parser.parseAllAfter, hread]
    exact ih

/-- Under a reliable engine highlighting can always be turned on. -/
theorem enableHighlighting_ok (rules : Shared RuleSet) (features : Shared FeatureList) (level : Nat) :
    (document.enableHighlighting rules features level).1 = .ok () := by
  rcases document.enableHighlighting_cases rules features level with
    ⟨-, h⟩ | ⟨language, -, ⟨hnone, -⟩ | ⟨_, -, h⟩⟩
  · rw [h]
  · obtain ⟨tree, htree⟩ := exists_first? language document.buffer.chars
    exact nomatch hnone.symm.trans htree
  · rw [h]

/-- Under a reliable engine the trees can always be brought up to date. -/
theorem reparse_ok (edit : Edit) : (document.reparse edit).1 = .ok () := by
  rcases document.reparse_cases edit with
    ⟨-, h⟩ | ⟨answer, parsers, -, -, hread, ⟨-, h⟩ | ⟨cause, hcause, -⟩⟩
  · rw [h]
  · rw [h]
  · have hok := parseAllAfter_ok edit document.buffer.chars document.parsers
    rw [hread] at hok
    exact nomatch hcause.symm.trans hok

/-- Under a reliable engine an edit is refused by the buffer and changes nothing, or it succeeds. -/
theorem Edited.refused_or_ok {outcome : Outcome Unit} (h : Edited document outcome) :
    (∃ cause, outcome = (.error (.buffer cause), document)) ∨ outcome.1 = .ok () := by
  cases h with
  | refused cause => exact Or.inl ⟨cause, rfl⟩
  | taken _ _ => exact Or.inr (reparse_ok _ _)

end Engine

end Document

end Dimming
