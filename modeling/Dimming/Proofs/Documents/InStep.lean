import Dimming.Proofs.Buffers.Edits
import Dimming.Proofs.Buffers.Slices
import Dimming.Proofs.Documents.Laws
import Dimming.Proofs.Highlighting.Spans
import Dimming.Proofs.Trees.Offsets

/-!
# Tree, text and spans in step

A document is edited, highlighted, dimmed and undimmed in any order. Under an engine that may be trusted,
its parser always holds the tree of just the text that the document holds, and has been told of edits
that lead from the text it read first to this one. So every span that is shown is a range of the text,
it starts and ends at characters, and it is not empty.

An engine may be trusted when it gives no text up, when the tree of an edited text does not depend on
whether the tree from before the edit was given for help, and when nodes lie in the text from character to
character. The engine that reads every text afresh may be trusted.
-/

set_option autoImplicit false

namespace Dimming

open Text

/-- An engine that may be trusted. -/
class FaithfulEngine [ParseEngine] : Prop extends ReliableEngine where
  /-- The tree from before an edit helps to read the text after it, and changes nothing of what is
  read, when the edit describes the change. -/
  read_after : ∀ (language : Language) (edit : Edit) (before after : List Char) (tree : Tree),
    edit.Describes (utf8 before) (utf8 after) →
      ParseEngine.read language none before = some tree →
        ParseEngine.read language (some (ParseEngine.moved edit tree)) after =
          ParseEngine.read language none after
  /-- The nodes of a tree lie in the text, from character to character. -/
  fits : ∀ (language : Language) (text : List Char) (tree : Tree) (node : Node),
    ParseEngine.read language none text = some tree → Node.Inside tree.nodes node → node.Fits text

/-- Reading every text afresh may be trusted. -/
instance : FaithfulEngine where
  read_after _ _ _ _ _ _ _ := rfl
  fits language text tree node hread hinside := by
    have hfits := Tree.fits_of_inside hinside
    have htree : language.parse text = tree := Option.some.inj hread
    rwa [← htree, language.chars_parse text] at hfits

end Dimming

namespace Dimming.Proofs.DocumentRun

open Text

/-- What can be done to a document. -/
inductive Act where
  | highlight (rules : Shared RuleSet) (features : Shared FeatureList) (level : Nat)
  | insert (index : Nat) (text : String)
  | delete (start stop : Nat)
  | setLevel (level : Nat)
  | enable (controller : Controller)
  | disable
  | set (switch : Switch) (on : Bool)
  | toggle (switch : Switch)

/-- The document and the supply after an act, also when it fails. -/
def Act.perform [ParseEngine] (document : Document) (supply : Supply) : Act → Document × Supply
  | .highlight rules features level => ((document.enableHighlighting rules features level).2, supply)
  | .insert index text => ((document.insert index text).2, supply)
  | .delete start stop => ((document.delete start stop).2, supply)
  | .setLevel level => ((document.setLevel level).2, supply)
  | .enable controller => (controller.enable supply document).2
  | .disable => ((Controller.disable document).2, supply)
  | .set switch on => switch.set supply on document
  | .toggle switch => (switch.toggle supply document).2

/-- A document in the course of a run, with the text that its parser read first. -/
structure Stage where
  document : Document
  supply : Supply
  first : Option (List Char)

namespace Stage

variable [ParseEngine]

/-- The stage after an act. -/
def step (stage : Stage) (act : Act) : Stage where
  document := (act.perform stage.document stage.supply).1
  supply := (act.perform stage.document stage.supply).2
  first := match act with
    | .highlight rules features level =>
      match (stage.document.enableHighlighting rules features level).1 with
      | .ok () => stage.document.language.map (fun _ => stage.document.buffer.chars)
      | .error _ => stage.first
    | _ => stage.first

/-- The stage after some acts. -/
def run (stage : Stage) (acts : List Act) : Stage := acts.foldl step stage

end Stage

/-- A document without highlighting has no parser. One with highlighting has one parser, of its own
language, with the tree of its text and with edits that lead to this text from the one read first. -/
inductive InStep [ParseEngine] (first : Option (List Char)) (document : Document) : Prop where
  /-- Highlighting is off. -/
  | dark (hparsers : document.parsers = []) (hhighlight : document.highlight.isSome = false)
  /-- Highlighting is on. -/
  | lit {parser : Parser} {tree : Tree} {text : List Char} (hparsers : document.parsers = [parser])
      (hhighlight : document.highlight.isSome = true)
      (hlanguage : document.language = some parser.language)
      (htree : parser.tree = some tree)
      (hread : ParseEngine.read parser.language none document.buffer.chars = some tree)
      (hfirst : first = some text)
      (hedits : Edit.Composes parser.edits (utf8 text) (utf8 document.buffer.chars))

namespace InStep

variable [ParseEngine] {first : Option (List Char)} {document : Document}

/-- What leaves the body of a document alone keeps it in step, unless it turns highlighting on or off. -/
theorem of_body_eq (h : InStep first document) {after : Document}
    (hbody : after.body = document.body)
    (hlit : after.highlight.isSome = document.highlight.isSome) : InStep first after := by
  have hparsers : after.parsers = document.parsers := congrArg DocumentBody.parsers hbody
  have hlanguage : after.language = document.language := congrArg DocumentBody.language hbody
  have hbuffer : after.buffer = document.buffer := congrArg DocumentBody.buffer hbody
  cases h with
  | dark hp hh => exact .dark (hparsers.trans hp) (hlit.trans hh)
  | lit hp hh hl ht hr hf he =>
    rw [← hbuffer] at hr he
    exact .lit (hparsers.trans hp) (hlit.trans hh) (hlanguage.trans hl) ht hr hf he

/-- Turning highlighting on starts with a parser that has read the text and was told of no edit; if the
text is given up, all is as before. -/
theorem highlight (h : InStep first document) (rules : Shared RuleSet)
    (features : Shared FeatureList) (level : Nat) :
    InStep
      (match (document.enableHighlighting rules features level).1 with
        | .ok () => document.language.map (fun _ => document.buffer.chars)
        | .error _ => first)
      (document.enableHighlighting rules features level).2 := by
  rcases document.enableHighlighting_cases rules features level with
    ⟨hnone, hlit⟩ | ⟨language, hlanguage, ⟨-, hlit⟩ | ⟨tree, hfirst, hlit⟩⟩
  · rw [hlit]
    cases h with
    | dark hp hh => exact .dark hp hh
    | lit _ _ hl _ _ _ _ => exact nomatch hnone.symm.trans hl
  · rw [hlit]
    exact h
  · rw [hlit, hlanguage]
    exact .lit rfl rfl hlanguage rfl (Document.read_of_first? hfirst) rfl (.refl _)

variable [FaithfulEngine]

/-- A parser with the tree of a text, told of an edit of it, holds the tree of the edited text. -/
theorem parseAfter_of_read {parser : Parser} {tree : Tree} {edit : Edit} {before after : List Char}
    (htree : parser.tree = some tree)
    (hread : ParseEngine.read parser.language none before = some tree)
    (hdescribes : edit.Describes (utf8 before) (utf8 after)) :
    ∃ next, ParseEngine.read parser.language none after = some next ∧
      parser.parseAfter edit after =
        (.ok (), ⟨parser.language, some next, parser.edits ++ [edit]⟩) := by
  obtain ⟨next, hnext⟩ := Option.isSome_iff_exists.mp
    (ReliableEngine.read_isSome parser.language none after)
  have hafter := FaithfulEngine.read_after parser.language edit before after tree hdescribes hread
  refine ⟨next, hnext, ?_⟩
  simp only [Parser.parseAfter, Parser.parse, Parser.tell, htree, Option.map_some, Option.isSome_some,
    if_true, hafter, hnext]

/-- An edit that a buffer reports keeps a document in step, whether it is empty or not. -/
theorem reparse (h : InStep first document) {buffer : Buffer} {edit : Edit}
    {front old new back : List Char}
    (hreplaces : document.buffer.Replaces edit buffer front old new back) :
    InStep first (({ document with buffer } : Document).reparse edit).2 := by
  let typed : Document := { document with buffer }
  have hlit : (typed.reparse edit).2.highlight.isSome = document.highlight.isSome :=
    congrArg Option.isSome (typed.highlight_reparse edit)
  cases h with
  | dark hp hh =>
    exact .dark ((typed.parsers_reparse_eq_nil edit).mpr hp) (hlit.trans hh)
  | @lit parser tree text hp hh hl ht hr hf he =>
    cases hempty : edit.isEmpty with
    | true =>
      -- nothing was changed, so the tree is still that of the text
      have hchars : buffer.chars = document.buffer.chars := hreplaces.chars_eq_of_isEmpty hempty
      have hsame : typed.reparse edit = (.ok (), typed) := by
        unfold Document.reparse
        rw [hempty, Bool.or_true, if_pos rfl]
      rw [← hchars] at hr he
      rw [hsame]
      exact .lit hp hh hl ht hr hf he
    | false =>
      have hdescribes := hreplaces.describes
      obtain ⟨next, hnext, hafter⟩ := parseAfter_of_read ht hr hdescribes
      have hsame : (typed.reparse edit).2.parsers =
          [⟨parser.language, some next, parser.edits ++ [edit]⟩] := by
        simp [Document.reparse, Parser.parseAllAfter, typed, hp, hempty, hafter,
          Document.requestRepaint]
      have hbody := typed.body_reparse edit
      have hlanguage : (typed.reparse edit).2.language = document.language :=
        congrArg DocumentBody.language hbody
      have hbuffer : (typed.reparse edit).2.buffer = buffer := congrArg DocumentBody.buffer hbody
      refine .lit hsame (hlit.trans hh) (hlanguage.trans hl) rfl ?_ hf ?_
      · rw [hbuffer]
        exact hnext
      · rw [hbuffer]
        exact he.concat hdescribes

/-- An edit keeps a document in step, whether the buffer takes it or not. -/
theorem edited (h : InStep first document) {outcome : Document.Outcome Unit}
    (hedited : document.Edited outcome) : InStep first outcome.2 := by
  cases hedited with
  | refused cause => exact h
  | taken hreplaces _ => exact h.reparse hreplaces

/-- Every act keeps a document in step. -/
theorem step {stage : Stage} (h : InStep stage.first stage.document) (act : Act) :
    InStep (stage.step act).first (stage.step act).document := by
  cases act with
  | highlight rules features level => exact h.highlight rules features level
  | insert index text => exact h.edited (stage.document.edited_insert index text)
  | delete start stop => exact h.edited (stage.document.edited_delete start stop)
  | setLevel level =>
    have hlit : (stage.document.setLevel level).2.highlight.isSome =
        stage.document.highlight.isSome := by
      rw [stage.document.highlight_setLevel, Option.isSome_map]
    exact h.of_body_eq (stage.document.body_setLevel level) hlit
  | enable controller =>
    exact h.of_body_eq (controller.body_enable stage.supply stage.document)
      (controller.isSome_highlight_enable stage.supply stage.document)
  | disable =>
    exact h.of_body_eq (Controller.body_disable stage.document)
      (Controller.isSome_highlight_disable stage.document)
  | set switch on =>
    exact h.of_body_eq (switch.body_set stage.supply on stage.document)
      (switch.isSome_highlight_set stage.supply on stage.document)
  | toggle switch =>
    exact h.of_body_eq (switch.body_set stage.supply _ stage.document)
      (switch.isSome_highlight_set stage.supply _ stage.document)

/-- Every run keeps a document in step. -/
theorem run {stage : Stage} (h : InStep stage.first stage.document) (acts : List Act) :
    InStep (stage.run acts).first (stage.run acts).document := by
  induction acts generalizing stage with
  | nil => exact h
  | cons act acts ih => exact ih (h.step act)

/-- The spans of a document in step are ranges of its text, from character to character. -/
theorem isBoundary_of_mem_spans (h : InStep first document) {span : Span}
    (hspan : span ∈ document.spans) :
    IsBoundary document.buffer.chars span.start ∧ IsBoundary document.buffer.chars span.stop ∧
      span.start < span.stop := by
  cases h with
  | dark hp hh =>
    rw [Option.isSome_eq_false_iff, Option.isNone_iff_eq_none] at hh
    simp only [Document.spans, hh] at hspan
    cases hspan
  | lit hp hh _ ht hr _ _ =>
    obtain ⟨state, hstate⟩ := Option.isSome_iff_exists.mp hh
    simp only [Document.spans, hstate, hp, ht] at hspan
    obtain ⟨node, hinside, hstart, hstop, hlt⟩ := Highlight.exists_node_of_mem_spansIn hspan
    obtain ⟨hfitsStart, hfitsStop⟩ := FaithfulEngine.fits _ _ _ node hr hinside
    rw [hstart] at hfitsStart
    rw [hstop] at hfitsStop
    exact ⟨hfitsStart, hfitsStop, hlt⟩

end InStep

/-- The text between two boundaries of a buffer is there, and it is made of just the bytes between
them. -/
theorem slice_of_isBoundary {buffer : Buffer} {start stop : Nat}
    (hstart : IsBoundary buffer.chars start) (hstop : IsBoundary buffer.chars stop)
    (hle : start ≤ stop) :
    ∃ covered, buffer.slice start stop = .ok covered ∧
      utf8 covered.toList = ((utf8 buffer.chars).take stop).drop start := by
  refine ⟨_, Buffer.slice_eq_ok hle hstop.le_byteLength, ?_⟩
  rw [String.toList_ofList]
  exact utf8_byteSlice hstart hstop hle

/-- Tree, text and spans of a document stay in step in every run of edits, failing and empty ones
included, of turning highlighting on, of changing the level and of putting the overlay on and taking it
off, when the engine may be trusted.
There is one parser while highlighting is on, and none otherwise. Its language is that of the document,
its tree is that of the text, and the edits it was told of lead from the text when highlighting was
turned on last to the text of now.
Every span is a range of the text that is not empty; the point of its start is known, and its text is
there and is made of just the bytes of the range. -/
theorem document_in_step [ParseEngine] [FaithfulEngine] (id : DocumentId) (buffer : Buffer)
    (name : String) (language : Option Language) (supply : Supply) (acts : List Act) :
    let stage := Stage.run ⟨Document.ofBuffer id buffer name language, supply, none⟩ acts
    let document := stage.document
    let text := document.buffer.chars
    (document.parsers.length = if document.highlight.isSome then 1 else 0) ∧
    (∀ parser ∈ document.parsers,
      document.language = some parser.language ∧
      (∃ tree, parser.tree = some tree ∧ ParseEngine.read parser.language none text = some tree) ∧
      ∃ first, stage.first = some first ∧ Edit.Composes parser.edits (utf8 first) (utf8 text)) ∧
    ∀ span ∈ document.spans,
      span.start < span.stop ∧ span.stop ≤ document.buffer.byteCount ∧
      (∃ point, document.buffer.point span.start = .ok point) ∧
      ∃ covered, document.textBetween span.start span.stop = .ok covered ∧
        utf8 covered.toList = ((utf8 text).take span.stop).drop span.start := by
  intro stage document text
  have hstep : InStep stage.first document := InStep.run (.dark rfl rfl) acts
  refine ⟨?_, ?_, ?_⟩
  · cases hstep with
    | dark hp hh =>
      rw [hp, hh]
      rfl
    | lit hp hh _ _ _ _ _ =>
      rw [hp, hh]
      rfl
  · intro parser hmem
    cases hstep with
    | dark hp _ =>
      rw [hp] at hmem
      cases hmem
    | lit hp _ hl ht hr hf he =>
      rw [hp] at hmem
      rw [List.mem_singleton.mp hmem]
      exact ⟨hl, ⟨_, ht, hr⟩, _, hf, he⟩
  · intro span hspan
    obtain ⟨hstart, hstop, hlt⟩ := hstep.isBoundary_of_mem_spans hspan
    have hend : span.stop ≤ document.buffer.byteCount := hstop.le_byteLength
    have hpoint : ¬ span.start > document.buffer.byteCount := by omega
    exact ⟨hlt, hend, ⟨_, if_neg hpoint⟩, slice_of_isBoundary hstart hstop (Nat.le_of_lt hlt)⟩

/-! ## A run with an edit, an edit that fails and one that changes nothing -/

/-- Highlighting is turned on, a text is put in, and then a deletion fails and another one is empty. -/
def typedRun : List Act :=
  [.highlight ⟨0, .empty⟩ ⟨0, .empty⟩ 3, .insert 2 ", 2", .delete 4 9, .delete 1 1]

/-- The document after the run. -/
def typedDocument : Document :=
  (Stage.run ⟨Document.ofBuffer ⟨0⟩ (Buffer.ofText "[1]") "Untitled" (some .json), ⟨0⟩, none⟩
    typedRun).document

/-- The parser holds the tree of the whole text at the end. -/
theorem document_in_step_typed :
    typedDocument.buffer.chars = "[1, 2]".toList ∧ typedDocument.parsers.length = 1 ∧
      ∀ parser ∈ typedDocument.parsers,
        parser.language = .json ∧ parser.tree = some (Language.json.parse "[1, 2]".toList) := by
  have htext : typedDocument.buffer.chars = "[1, 2]".toList := by decide +kernel
  obtain ⟨hcount, hparsers, -⟩ :=
    document_in_step ⟨0⟩ (Buffer.ofText "[1]") "Untitled" (some .json) ⟨0⟩ typedRun
  refine ⟨htext, hcount, ?_⟩
  intro parser hmem
  obtain ⟨hlanguage, ⟨tree, htree, hread⟩, -⟩ := hparsers parser hmem
  have hjson : typedDocument.language = some .json := rfl
  refine ⟨(Option.some.inj (hjson.symm.trans hlanguage)).symm, ?_⟩
  rw [← Option.some.inj (hjson.symm.trans hlanguage)] at hread
  rw [htree, ← htext]
  exact hread.symm

end Dimming.Proofs.DocumentRun
