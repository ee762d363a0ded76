import Dimming.Proofs.Documents.InStep

/-!
# No missed repaint

What a document shows is drawn anew only when it asks for it. Every operation does one of two things: it
leaves the spans alone and asks for nothing, or it asks for a repaint, notes that it did, and announces
it once under the identity of the document. So as long as nothing was asked for since someone looked,
what was shown then is still what is to be shown.

There is one exception, which takes an engine that gives a text up. An edit of such a text stands, and the
trees are moved to where it leaves them, but no repaint is asked for. Under a reliable engine it does not
occur.
-/

set_option autoImplicit false

namespace Dimming

/-- What was sent to a bus, once the events that wait in a document are delivered to it. -/
def Document.heardOn (bus : Bus) (document : Document) : List Event :=
  (bus.emitAll document.deliver.1).sent.toList

/-- Events that are sent together come behind those sent before, in order. -/
theorem Bus.sent_emitAll (bus : Bus) (events : List Event) :
    (bus.emitAll events).sent.toList = bus.sent.toList ++ events := by
  unfold emitAll
  induction events generalizing bus with
  | nil => simp
  | cons event events ih =>
    rw [List.foldl_cons, ih]
    simp [emit]

namespace Document

/-- The spans are told by the live highlighting, the parsers and the text. -/
theorem spans_congr {before after : Document} (hhighlight : after.highlight = before.highlight)
    (hparsers : after.parsers = before.parsers)
    (hchars : after.buffer.chars = before.buffer.chars) : after.spans = before.spans := by
  unfold spans
  rw [hhighlight, hparsers, hchars]

/-- Without highlighting nothing is shown. -/
theorem spans_of_unlit {document : Document} (h : document.highlight.isSome = false) :
    document.spans = [] := by
  rw [Option.isSome_eq_false_iff, Option.isNone_iff_eq_none] at h
  unfold spans
  rw [h]

/-- Without a parser nothing is shown. -/
theorem spans_of_parsers_eq_nil {document : Document} (h : document.parsers = []) :
    document.spans = [] := by
  unfold spans
  rw [h]
  cases document.highlight <;> rfl

/-- What an operation makes of the spans, and of the wish for a repaint. -/
inductive Asks (before after : Document) : Prop where
  /-- The spans are as they were, and nothing was asked for. -/
  | quiet (hid : after.id = before.id) (hspans : after.spans = before.spans)
      (hpending : after.repaintPending = before.repaintPending)
      (houtbox : after.outbox = before.outbox)
  /-- A repaint was asked for and announced. -/
  | aloud (hid : after.id = before.id) (hpending : after.repaintPending = true)
      (houtbox : after.outbox = before.outbox.map (· ++ [.repaintRequested before.id]))

namespace Asks

variable {before middle after : Document}

/-- A document that is left alone asks for nothing. -/
theorem refl (document : Document) : Asks document document := .quiet rfl rfl rfl rfl

/-- Asking for a repaint is aloud, whatever was changed before it was asked for. -/
theorem of_requestRepaint (hid : middle.id = before.id) (houtbox : middle.outbox = before.outbox) :
    Asks before middle.requestRepaint := by
  refine .aloud hid rfl ?_
  simp only [requestRepaint, hid, houtbox]

/-- What happens after a quiet change counts as if it had happened at once. -/
theorem of_quiet (h : Asks middle after) (hid : middle.id = before.id)
    (hspans : middle.spans = before.spans)
    (hpending : middle.repaintPending = before.repaintPending)
    (houtbox : middle.outbox = before.outbox) : Asks before after := by
  cases h with
  | quiet hi hs hp ho =>
    exact .quiet (hi.trans hid) (hs.trans hspans) (hp.trans hpending) (ho.trans houtbox)
  | aloud hi hp ho =>
    rw [hid, houtbox] at ho
    exact .aloud (hi.trans hid) hp ho

/-- Each event that is announced is heard on every bus that the document is attached to. -/
theorem heardOn (h : Asks before after) (bus : Bus) (hattached : before.outbox.isSome = true) :
    ∃ announced, after.heardOn bus = before.heardOn bus ++ announced ∧
      (after.spans ≠ before.spans → Event.repaintRequested before.id ∈ announced) := by
  obtain ⟨waiting, hwaiting⟩ := Option.isSome_iff_exists.mp hattached
  cases h with
  | quiet _ hspans _ houtbox =>
    refine ⟨[], ?_, fun hne => absurd hspans hne⟩
    simp only [Document.heardOn, deliver, houtbox, List.append_nil]
  | aloud _ _ houtbox =>
    refine ⟨[.repaintRequested before.id], ?_, fun _ => List.mem_singleton_self _⟩
    simp only [Document.heardOn, deliver, houtbox, hwaiting, Option.map_some, Option.getD_some,
      Bus.sent_emitAll, List.append_assoc]

/-- An operation neither starts nor ends the listening. -/
theorem isSome_outbox (h : Asks before after) : after.outbox.isSome = before.outbox.isSome := by
  cases h with
  | quiet _ _ _ houtbox => rw [houtbox]
  | aloud _ _ houtbox => rw [houtbox, Option.isSome_map]

/-- An operation leaves the identity of the document. -/
theorem id_eq (h : Asks before after) : after.id = before.id := by
  cases h with
  | quiet hid _ _ _ => exact hid
  | aloud hid _ _ => exact hid

end Asks

/-! ## The operations -/

/-- Turning highlighting on asks for a repaint, unless the document has no language or its text is given
up. -/
theorem asks_enableHighlighting [ParseEngine] (document : Document) (rules : Shared RuleSet)
    (features : Shared FeatureList) (level : Nat) :
    Asks document (document.enableHighlighting rules features level).2 := by
  rcases document.enableHighlighting_cases rules features level with
    ⟨-, h⟩ | ⟨_, -, ⟨-, h⟩ | ⟨_, -, h⟩⟩
  · rw [h]
    exact .refl document
  · rw [h]
    exact .refl document
  · rw [h]
    exact .of_requestRepaint rfl rfl

/-- An edit asks for a repaint, unless it is refused, there is no parser, or nothing was changed. -/
theorem asks_edited [ParseEngine] {document : Document} {outcome : Document.Outcome Unit}
    (h : document.Edited outcome) (hread : ∀ cause, outcome.1 ≠ .error (.language cause)) :
    Asks document outcome.2 := by
  cases h with
  | refused cause => exact .refl document
  | @taken edit buffer _ _ _ _ hreplaces _ =>
    rcases Document.reparse_cases { document with buffer } edit with
      ⟨hskip, h⟩ | ⟨_, _, -, -, -, ⟨-, h⟩ | ⟨cause, -, h⟩⟩
    · rw [h]
      refine .quiet rfl ?_ rfl rfl
      rcases hskip with hnone | hempty
      · rw [spans_of_parsers_eq_nil hnone, spans_of_parsers_eq_nil]
        exact hnone
      · exact spans_congr rfl rfl (hreplaces.chars_eq_of_isEmpty hempty)
    · rw [h]
      exact .of_requestRepaint rfl rfl
    · rw [h] at hread
      exact absurd rfl (hread cause)

/-- An edit whose text is given up stands all the same, and asks for nothing. -/
theorem silent_of_givenUp [ParseEngine] {document : Document} {outcome : Document.Outcome Unit}
    (h : document.Edited outcome) {cause : LanguageError}
    (hgiven : outcome.1 = .error (.language cause)) :
    (∃ edit front old new back,
        document.buffer.Replaces edit outcome.2.buffer front old new back) ∧
      outcome.2.repaintPending = document.repaintPending ∧ outcome.2.outbox = document.outbox := by
  cases h with
  | refused refusal => cases hgiven
  | @taken edit buffer front old new back hreplaces _ =>
    rcases Document.reparse_cases { document with buffer } edit with
      ⟨-, h⟩ | ⟨_, _, -, -, -, ⟨-, h⟩ | ⟨_, -, h⟩⟩
    · rw [h] at hgiven
      cases hgiven
    · rw [h] at hgiven
      cases hgiven
    · rw [h]
      exact ⟨⟨edit, front, old, new, back, hreplaces⟩, rfl, rfl⟩

/-- A new level asks for a repaint, unless there is no highlighting. -/
theorem asks_setLevel (document : Document) (level : Nat) :
    Asks document (document.setLevel level).2 := by
  unfold setLevel
  split
  · exact .refl document
  · exact .of_requestRepaint rfl rfl

/-- Enabling asks for a repaint, unless the document takes no overlay. -/
theorem asks_enable (controller : Controller) (supply : Supply) (document : Document) :
    Asks document (controller.enable supply document).2.1 := by
  rcases controller.enable_cases supply document with
    ⟨overlay, rules, features, -, -, -, henable⟩ | henable
  · rw [henable]
    exact .of_requestRepaint rfl rfl
  · rw [henable]
    exact .refl document

/-- Lighting a document anew asks for a repaint, unless there is no highlighting. -/
theorem asks_relit {before document : Document} (hid : document.id = before.id)
    (houtbox : document.outbox = before.outbox)
    (hpending : document.repaintPending = before.repaintPending)
    (hlit : document.highlight.isSome = before.highlight.isSome) :
    Asks before document.relit := by
  unfold relit
  split
  · exact .of_requestRepaint hid houtbox
  · next hdark =>
    rw [Bool.not_eq_true] at hdark
    refine .quiet hid ?_ hpending houtbox
    rw [spans_of_unlit hdark, spans_of_unlit (hlit.symm.trans hdark)]

/-- Disabling asks for a repaint, unless there is no highlighting. -/
theorem asks_disable (document : Document) : Asks document (Controller.disable document).2 := by
  rcases Controller.disable_cases document with ⟨saved, -, hdisable⟩ | ⟨-, hdisable⟩
  · rw [hdisable]
    exact asks_relit rfl rfl rfl Option.isSome_map
  · rw [hdisable]
    exact asks_relit rfl rfl rfl rfl

/-- A switch asks for a repaint when the controller does. -/
theorem asks_set (switch : Switch) (supply : Supply) (on : Bool) (document : Document) :
    Asks document (switch.set supply on document).1 := by
  -- the flag is moved first, and it does not show
  let flagged := Switch.flag on document
  have hspans : flagged.spans = document.spans := spans_congr rfl rfl rfl
  cases on with
  | true => exact (asks_enable switch.controller supply flagged).of_quiet rfl hspans rfl rfl
  | false => exact (asks_disable flagged).of_quiet rfl hspans rfl rfl

end Document

end Dimming

namespace Dimming.Proofs.DocumentRun

open Document

section Runs

variable [ParseEngine]

/-- An act is an edit of which the parser gives the text up. -/
def Act.GivesUp (document : Document) : Act → Prop
  | .insert index text => ∃ cause, (document.insert index text).1 = .error (.language cause)
  | .delete start stop => ∃ cause, (document.delete start stop).1 = .error (.language cause)
  | _ => False

/-- Every act leaves the spans alone or asks for a repaint, unless it is an edit of which the parser gives
the text up. -/
theorem Act.asks_of_not_givesUp {document : Document} {act : Act} (h : ¬ act.GivesUp document)
    (supply : Supply) : Asks document (act.perform document supply).1 := by
  cases act with
  | highlight rules features level => exact asks_enableHighlighting document rules features level
  | insert index text =>
    exact asks_edited (document.edited_insert index text) (fun cause hcause => h ⟨cause, hcause⟩)
  | delete start stop =>
    exact asks_edited (document.edited_delete start stop) (fun cause hcause => h ⟨cause, hcause⟩)
  | setLevel level => exact asks_setLevel document level
  | enable controller => exact asks_enable controller supply document
  | disable => exact asks_disable document
  | set switch on => exact asks_set switch supply on document
  | toggle switch => exact asks_set switch supply _ document

/-- Under a reliable engine no edit fails in the parser. -/
theorem ne_language_of_edited [ReliableEngine] {document : Document}
    {outcome : Document.Outcome Unit} (h : document.Edited outcome) (cause : LanguageError) :
    outcome.1 ≠ .error (.language cause) := by
  rcases h.refused_or_ok with ⟨refusal, rfl⟩ | hok
  · exact nofun
  · rw [hok]
    exact nofun

variable [ReliableEngine]

/-- Under a reliable engine every act leaves the spans alone or asks for a repaint. -/
theorem Act.asks (document : Document) (supply : Supply) (act : Act) :
    Asks document (act.perform document supply).1 := by
  refine Act.asks_of_not_givesUp ?_ supply
  cases act with
  | insert index text =>
    exact fun ⟨cause, hcause⟩ => ne_language_of_edited (document.edited_insert index text) cause hcause
  | delete start stop =>
    exact fun ⟨cause, hcause⟩ => ne_language_of_edited (document.edited_delete start stop) cause hcause
  | _ => exact not_false

/-- A document that has not asked for a repaint by the end of a run had not asked before it, and shows
what it showed. -/
theorem Stage.spans_run {stage : Stage} {acts : List Act}
    (h : (stage.run acts).document.repaintPending = false) :
    stage.document.repaintPending = false ∧
      (stage.run acts).document.spans = stage.document.spans := by
  induction acts generalizing stage with
  | nil => exact ⟨h, rfl⟩
  | cons act acts ih =>
    obtain ⟨hstep, hspans⟩ := ih h
    cases act.asks stage.document stage.supply with
    | quiet _ hsame hpending _ => exact ⟨hpending.symm.trans hstep, hspans.trans hsame⟩
    | aloud _ hpending _ => cases hpending.symm.trans hstep

/-- A document keeps its identity in a run, and stays attached. -/
theorem Stage.id_run (stage : Stage) (acts : List Act) :
    (stage.run acts).document.id = stage.document.id ∧
      (stage.run acts).document.outbox.isSome = stage.document.outbox.isSome := by
  induction acts generalizing stage with
  | nil => exact ⟨rfl, rfl⟩
  | cons act acts ih =>
    obtain ⟨hid, hattached⟩ := ih (stage.step act)
    have hasks := act.asks stage.document stage.supply
    exact ⟨hid.trans hasks.id_eq, hattached.trans hasks.isSome_outbox⟩

end Runs

/-- No repaint is missed under an engine that gives no text up, whatever is done to a document between two
looks at its wish for a repaint, also by edits that fail or change nothing, by turning highlighting on, by
changing the level, and by any controllers and switches. If the second look finds no wish, the spans are
those right after the first. Every single act that changes the spans announces a repaint, under the identity
of the document, on the bus that the document is attached to. -/
theorem no_missed_repaint [ParseEngine] [ReliableEngine] (document : Document) (supply : Supply)
    (acts : List Act) :
    let first := document.takeRepaint.2
    let stage := Stage.run ⟨first, supply, none⟩ acts
    (stage.document.takeRepaint.1 = false → stage.document.spans = first.spans) ∧
    ∀ (bus : Bus) (act : Act), document.outbox.isSome = true →
      let later := (stage.step act).document
      ∃ announced, later.heardOn bus = stage.document.heardOn bus ++ announced ∧
        (later.spans ≠ stage.document.spans → Event.repaintRequested document.id ∈ announced) := by
  intro first stage
  refine ⟨fun hfalse => (Stage.spans_run hfalse).2, ?_⟩
  intro bus act hattached later
  obtain ⟨hid, hsame⟩ := Stage.id_run ⟨first, supply, none⟩ acts
  have hstage : stage.document.outbox.isSome = true := hsame.trans hattached
  obtain ⟨announced, hheard, hasked⟩ :=
    (act.asks stage.document stage.supply).heardOn bus hstage
  rw [hid] at hasked
  exact ⟨announced, hheard, hasked⟩

/-! ## A look before and after two edits that change nothing -/

/-- Numbers are marked in JSON. -/
def numberRules : RuleSet :=
  ((RuleSet.compile compilePattern .json ⟨"constant"⟩ ⟨"constant"⟩ ⟨0⟩ [⟨"(number)", none⟩]).toOption.map
    (·.1)).getD .empty

/-- A document with one number that is shown, and with someone who listens. -/
def numberDocument : Document :=
  ((Document.ofBuffer ⟨7⟩ (Buffer.ofText "[1]") "Untitled" (some .json)).listen.enableHighlighting
    ⟨1, numberRules⟩ ⟨2, ⟨[[⟨"constant"⟩]]⟩⟩ 1).2

/-- The document after the first look, an empty deletion and an insertion that fails. -/
def idleStage : Stage :=
  Stage.run ⟨numberDocument.takeRepaint.2, ⟨3⟩, none⟩ [.delete 1 1, .insert 9 "x"]

/-- The second look finds no wish, and the spans are what they were. Then the number gets a second digit;
its span grows, and the repaint is heard. -/
theorem no_missed_repaint_number :
    numberDocument.takeRepaint.1 = true ∧ idleStage.document.takeRepaint.1 = false ∧
      idleStage.document.spans = numberDocument.takeRepaint.2.spans ∧
      let later := (idleStage.step (.insert 2 "2")).document
      later.spans ≠ idleStage.document.spans ∧
        Event.repaintRequested ⟨7⟩ ∈ later.heardOn .fresh := by
  obtain ⟨hquiet, haloud⟩ :=
    no_missed_repaint numberDocument ⟨3⟩ [.delete 1 1, .insert 9 "x"]
  have hchanged : (idleStage.step (.insert 2 "2")).document.spans ≠ idleStage.document.spans := by
    decide +kernel
  obtain ⟨announced, hheard, hasked⟩ := haloud .fresh (.insert 2 "2") rfl
  refine ⟨rfl, rfl, hquiet rfl, hchanged, ?_⟩
  exact hheard ▸ List.mem_append_right _ (hasked hchanged)

/-- An engine that reads for new parsers only. It gives up a text that it is to read again, and keeps
nothing of a tree that is moved. -/
@[reducible]
def hastyEngine : ParseEngine where
  accepts _ := true
  moved _ _ := Language.json.parse []
  read language former text := if former.isNone then some (language.parse text) else none

/-- Under an engine that gives a text up a repaint can be missed: the text is edited and the spans are no
longer what was shown, but no repaint is asked for. -/
theorem repaint_missed_by_hasty :
    let document := numberDocument.takeRepaint.2
    let outcome := @Document.insert hastyEngine document 2 "2"
    outcome.1 = .error (.language .notParsed) ∧ outcome.2.buffer.chars = "[12]".toList ∧
      outcome.2.repaintPending = false ∧ outcome.2.spans ≠ document.spans := by
  refine ⟨rfl, by decide, rfl, by decide +kernel⟩

end Dimming.Proofs.DocumentRun
