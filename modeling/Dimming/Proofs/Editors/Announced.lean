import Dimming.Proofs.Documents.Repaint
import Dimming.Proofs.Editors.Shelves

/-!
# What an editor announces

Between two acts nothing waits in the documents of an editor, so what an act announces is its own: the
requests for a repaint of the document that it was done to, followed by one event that tells what was
done, if there is something to tell. This is told here once for every act, together with what the act
does to the shelf; all that is known of the announcements of a run follows from it by one induction.
-/

set_option autoImplicit false

namespace Dimming

open Proofs.EditorHistory

namespace Event

/-- The document that an event is about. -/
def subject? : Event → Option DocumentId
  | .documentOpened id => some id
  | .documentClosed id => some id
  | .repaintRequested id => some id
  | .overlayToggled id _ => some id
  | .levelChanged id _ => some id
  | .configChanged => none

/-- A number of requests for a repaint of a document. -/
def requests (id : DocumentId) (count : Nat) : List Event :=
  List.replicate count (.repaintRequested id)

end Event

namespace Editor

/-- The events that an editor has announced so far, oldest first. -/
def announced (editor : Editor) : List Event := editor.bus.sent.toList

/-- An event that is emitted is announced after all others. -/
@[simp]
theorem announced_emit (editor : Editor) (event : Event) :
    (editor.emit event).announced = editor.announced ++ [event] := by
  simp [announced, emit, Bus.emit]

/-- Settling a document announces what waited in it. -/
theorem announced_settle (editor : Editor) (document : Document) :
    (editor.settle document).announced = editor.announced ++ document.deliver.1 :=
  editor.bus.sent_emitAll document.deliver.1

end Editor

namespace Document

variable {before after : Document}

/-- What waits to be delivered is a number of requests for a repaint. -/
def Waits (document : Document) (count : Nat) : Prop :=
  document.outbox = some (Event.requests document.id count)

/-- Nothing waits in a new document. -/
theorem waits_listen_ofBuffer (id : DocumentId) (buffer : Buffer) (name : String)
    (language : Option Language) : (ofBuffer id buffer name language).listen.Waits 0 := rfl

/-- What waits is delivered, and then nothing waits. -/
theorem Waits.deliver {count : Nat} (h : before.Waits count) :
    before.deliver.1 = Event.requests before.id count ∧ before.deliver.2.Waits 0 := by
  unfold Waits at h
  simp [Document.deliver, Waits, Event.requests, h]

/-- An operation on a document leaves at most one request more. -/
theorem Asks.waits (h : Asks before after) {count : Nat} (hwaits : before.Waits count) :
    ∃ more ≤ 1, after.Waits (count + more) := by
  unfold Waits at *
  cases h with
  | quiet hid _ _ houtbox => exact ⟨0, Nat.zero_le _, by rw [houtbox, hwaits, hid, Nat.add_zero]⟩
  | aloud hid _ houtbox =>
    refine ⟨1, Nat.le_refl _, ?_⟩
    rw [houtbox, hwaits, hid, Option.map_some, Event.requests, Event.requests,
      List.replicate_succ']

/-- An edit leaves at most one request more. -/
theorem Edited.waits [ParseEngine] {outcome : Outcome Unit} (h : before.Edited outcome)
    (hidle : before.Waits 0) : ∃ count, outcome.2.Waits count := by
  unfold Waits at *
  rcases h.outbox_eq with hsame | hmore
  · exact ⟨0, by rw [hsame, hidle, h.id_eq]⟩
  · exact ⟨1, by rw [hmore, hidle, h.id_eq]; rfl⟩

end Document

/-! ## One act -/

/-- What is told of a document after something was done to it: where its switch was put, which level it
was given, or nothing; then both are as they were. -/
inductive News (former changed : Document) : List Event → Prop
  | none (hon : Switch.isOn changed = Switch.isOn former) (hlevel : changed.level? = former.level?) :
      News former changed []
  | toggled (on : Bool) (hon : Switch.isOn changed = on) (hlevel : changed.level? = former.level?) :
      News former changed [.overlayToggled former.id on]
  | levelChanged (level : Nat) (hon : Switch.isOn changed = Switch.isOn former)
      (hlevel : changed.level? = some level) : News former changed [.levelChanged former.id level]

/-- What an act does to the shelf of an editor, and what it announces. -/
inductive Announces (before after : Editor) : List Event → Prop
  /-- No document changes; another one may become active. -/
  | quiet (hdocuments : after.shelf.documents = before.shelf.documents)
      (horder : after.shelf.order = before.shelf.order)
      (hactive : after.shelf.active = before.shelf.active ∨
        ∃ id ∈ before.shelf.order, after.shelf.active = some id)
      (hnext : after.nextDocument = before.nextDocument) : Announces before after []
  /-- A document is opened; while it is set up it asks for a repaint. -/
  | opened (document : Document) (count : Nat) (hcount : count ≤ 2)
      (hid : document.id = before.freshId) (hidle : document.Waits 0)
      (hon : Switch.isOn document = before.config.enableByDefault)
      (hlevel : ∀ level, document.level? = some level → level = before.config.level)
      (hshelf : after.shelf = before.shelf.add document)
      (hnext : after.nextDocument = before.nextDocument + 1) :
      Announces before after
        (Event.requests document.id count ++ [.documentOpened document.id])
  /-- A document is closed. -/
  | closed {id : DocumentId} {document : Document}
      (hclose : before.shelf.close id = some (document, after.shelf))
      (hnext : after.nextDocument = before.nextDocument) :
      Announces before after [.documentClosed id]
  /-- Something is done to an open document. -/
  | changed {document : Document} (changed : Document) (count : Nat) {news : List Event}
      (hget : before.shelf.get? document.id = some document) (hid : changed.id = document.id)
      (hidle : changed.Waits 0) (hnews : News document changed news)
      (hshelf : after.shelf = before.shelf.replace changed)
      (hnext : after.nextDocument = before.nextDocument) :
      Announces before after (Event.requests document.id count ++ news)

/-- An editor between two acts: its shelf is tidy, all identities on it were handed out, and nothing waits
to be delivered. -/
structure Settled (editor : Editor) : Prop where
  tidy : editor.shelf.Tidy
  fresh : ∀ id ∈ editor.shelf.order, id.number < editor.nextDocument
  idle : ∀ document ∈ editor.shelf.documents, document.Waits 0

namespace Editor

/-- After an operation on an open document its requests are delivered, and then the news are told. -/
theorem announces_settle {editor after : Editor} {document changed : Document} {news : List Event}
    {count : Nat} (hget : editor.shelf.get? document.id = some document)
    (hid : changed.id = document.id) (hwaits : changed.Waits count)
    (hnews : News document changed news)
    (hshelf : after.shelf = (editor.settle changed).shelf)
    (hannounced : after.announced = (editor.settle changed).announced ++ news)
    (hnext : after.nextDocument = editor.nextDocument) :
    ∃ events, after.announced = editor.announced ++ events ∧ Announces editor after events := by
  obtain ⟨hevents, hdelivered⟩ := hwaits.deliver
  have hnews' : News document changed.deliver.2 news := by
    cases hnews with
    | none hon hlevel => exact .none hon hlevel
    | toggled on hon hlevel => exact .toggled on hon hlevel
    | levelChanged level hon hlevel => exact .levelChanged level hon hlevel
  refine ⟨Event.requests document.id count ++ news, ?_,
    .changed changed.deliver.2 _ hget hid hdelivered hnews' hshelf hnext⟩
  rw [hannounced, announced_settle, hevents, hid, List.append_assoc]

/-- An act that announces nothing, changes no document and keeps the order. -/
theorem announces_quiet {editor after : Editor}
    (hdocuments : after.shelf.documents = editor.shelf.documents)
    (horder : after.shelf.order = editor.shelf.order)
    (hactive : after.shelf.active = editor.shelf.active ∨
      ∃ id ∈ editor.shelf.order, after.shelf.active = some id)
    (hannounced : after.announced = editor.announced)
    (hnext : after.nextDocument = editor.nextDocument) :
    ∃ events, after.announced = editor.announced ++ events ∧ Announces editor after events :=
  ⟨[], by rw [hannounced, List.append_nil], .quiet hdocuments horder hactive hnext⟩

/-- An act that does nothing announces nothing. -/
theorem announces_refl (editor : Editor) :
    ∃ events, editor.announced = editor.announced ++ events ∧ Announces editor editor events :=
  announces_quiet rfl rfl (Or.inl rfl) rfl rfl

/-- A document that was highlighted and switched on its way to the shelf is announced with its requests
before it. -/
theorem announces_shelve {before editor : Editor} {document : Document} {count : Nat}
    (hcount : count ≤ 1) (hid : document.id = before.freshId) (hwaits : document.Waits count)
    (hon : Switch.isOn document = false)
    (hlevel : ∀ level, document.level? = some level → level = before.config.level)
    (hshelf : editor.shelf = before.shelf) (hbus : editor.bus = before.bus)
    (hconfig : editor.config = before.config)
    (hnext : editor.nextDocument = before.nextDocument) :
    ∃ events, (editor.shelve document).2.announced = before.announced ++ events ∧
      Announces before (editor.shelve document).2 events := by
  let ready := if editor.config.enableByDefault then (editor.mode.set editor.supply true document).1
    else document
  have hasks : document.Asks ready := by
    simp only [ready]
    split
    · exact document.asks_set editor.mode editor.supply true
    · exact .refl document
  have hready_on : Switch.isOn ready = before.config.enableByDefault := by
    simp only [ready, hconfig]
    cases before.config.enableByDefault with
    | true => exact editor.mode.isOn_set editor.supply true document
    | false => exact hon
  have hready_level : ready.level? = document.level? := by
    simp only [ready]
    split
    · exact editor.mode.level?_set editor.supply true document
    · rfl
  obtain ⟨more, hmore, hready⟩ := hasks.waits hwaits
  obtain ⟨hevents, hdelivered⟩ := hready.deliver
  have hready_id : ready.id = before.freshId := hasks.id_eq.trans hid
  have hshelve : (editor.shelve document).2.shelf = before.shelf.add ready.deliver.2 ∧
      (editor.shelve document).2.announced =
        before.announced ++ (ready.deliver.1 ++ [.documentOpened ready.id]) ∧
      (editor.shelve document).2.nextDocument = before.nextDocument + 1 := by
    simp only [shelve, ready, ← hshelf, announced_emit]
    cases editor.config.enableByDefault <;>
      simp [announced, emit, Bus.sent_emitAll, hnext, hbus, Document.deliver]
  refine ⟨_, hshelve.2.1, ?_⟩
  rw [hevents]
  refine .opened ready.deliver.2 (count + more) (by omega) hready_id hdelivered hready_on ?_
    hshelve.1 hshelve.2.2
  intro level hsome
  exact hlevel level (hready_level.symm.trans hsome)

variable {editor : Editor}

/-- Switching the overlay announces which way it was switched. -/
theorem announces_turn (h : Settled editor) {document : Document}
    (hget : editor.shelf.get? document.id = some document) (on : Bool) :
    ∃ events, (Order.give editor document.id (.turn on)).announced = editor.announced ++ events ∧
      Announces editor (Order.give editor document.id (.turn on)) events := by
  have hasks := document.asks_set editor.mode editor.supply on
  obtain ⟨count, -, hwaits⟩ := hasks.waits (h.idle document (mem_of_get? hget).1)
  have hnews : News document (editor.mode.set editor.supply on document).1
      [.overlayToggled document.id on] :=
    .toggled on (editor.mode.isOn_set _ on document) (editor.mode.level?_set _ on document)
  refine announces_settle hget hasks.id_eq hwaits hnews ?_ ?_ ?_
  all_goals simp [Order.give, setOverlay, hget, emit, settle, announced, Bus.emit]

/-- What a new level announces: that it was changed, if there is highlighting. -/
theorem announces_setLevel (h : Settled editor) {document : Document}
    (hget : editor.shelf.get? document.id = some document) (level : Nat) :
    ∃ events, (editor.setLevel document.id level).2.announced = editor.announced ++ events ∧
      Announces editor (editor.setLevel document.id level).2 events := by
  have hasks := document.asks_setLevel level
  obtain ⟨count, -, hwaits⟩ := hasks.waits (h.idle document (mem_of_get? hget).1)
  cases hstate : document.highlight with
  | none =>
    have hsame : document.setLevel level = (false, document) := by
      simp [Document.setLevel, hstate]
    rw [hsame] at hwaits
    refine announces_settle hget rfl hwaits (.none rfl rfl) ?_ ?_ ?_
    all_goals simp [setLevel, hget, hsame, settle]
  | some state =>
    have htrue : (document.setLevel level).1 = true := by simp [Document.setLevel, hstate]
    have hlevel : (document.setLevel level).2.level? = some level := by
      simp only [Document.level?, document.highlight_setLevel, hstate]
      rfl
    have hon : Switch.isOn (document.setLevel level).2 = Switch.isOn document :=
      congrArg OverlayRecord.enabled (document.overlay_setLevel level)
    refine announces_settle hget hasks.id_eq hwaits (.levelChanged level hon hlevel) ?_ ?_ ?_
    all_goals simp [setLevel, hget, htrue, emit, settle, announced, Bus.emit]

/-- What an order announces. -/
theorem announces_give (h : Settled editor) (id : DocumentId) (order : Order) :
    ∃ events, (order.give editor id).announced = editor.announced ++ events ∧
      Announces editor (order.give editor id) events := by
  cases hget : editor.shelf.get? id with
  | none =>
    rw [Act.give_of_absent hget]
    exact announces_refl editor
  | some document =>
    obtain ⟨-, rfl⟩ := mem_of_get? hget
    cases order with
    | turn on => exact announces_turn h hget on
    | turnOver =>
      have hturn : Order.turnOver.give editor document.id =
          (Order.turn (!Switch.isOn document)).give editor document.id := by
        simp [Order.give, toggleOverlay, setOverlay, hget, Switch.toggle]
      rw [hturn]
      exact announces_turn h hget (!Switch.isOn document)
    | setLevel level => exact announces_setLevel h hget level

/-- Closing announces that the document is closed, if it was open. -/
theorem announces_close (editor : Editor) (id : DocumentId) :
    ∃ events, (editor.closeDocument id).2.announced = editor.announced ++ events ∧
      Announces editor (editor.closeDocument id).2 events := by
  unfold closeDocument
  cases hclose : editor.shelf.close id with
  | none => exact announces_refl editor
  | some closed =>
    obtain ⟨document, shelf⟩ := closed
    exact ⟨[.documentClosed id], announced_emit _ _, .closed hclose rfl⟩

section Opening

variable [ParseEngine]

/-- An edit of an open document tells nothing but requests, whatever becomes of it. -/
theorem announces_onDocument (h : Settled editor) (id : DocumentId)
    (change : Document → Document.Outcome Unit)
    (hchange : ∀ document : Document, document.Edited (change document)) :
    ∃ events, (editor.onDocument id change).2.announced = editor.announced ++ events ∧
      Announces editor (editor.onDocument id change).2 events := by
  unfold onDocument
  cases hget : editor.shelf.get? id with
  | none => exact announces_refl editor
  | some document =>
    obtain ⟨hmem, rfl⟩ := mem_of_get? hget
    have hedited := hchange document
    obtain ⟨count, hwaits⟩ := hedited.waits (h.idle document hmem)
    have hnews : News document (change document).2 [] :=
      .none (congrArg OverlayRecord.enabled hedited.overlay_eq)
        (congrArg (Option.map Highlight.level) hedited.highlight_eq)
    exact announces_settle hget hedited.id_eq hwaits hnews rfl (by simp) rfl

/-- A document that is added is announced with its requests before it; one whose text is given up is not
announced. -/
theorem announces_addDocument (editor : Editor) (buffer : Buffer) (name : String)
    (language : Option Language) :
    let outcome := editor.addDocument (Document.ofBuffer editor.freshId buffer name language)
    ∃ events, outcome.2.announced = editor.announced ++ events ∧
      Announces editor outcome.2 events := by
  intro outcome
  cases language with
  | none =>
    let document := (Document.ofBuffer editor.freshId buffer name none).listen
    have houtcome : outcome.2 = (editor.shelve document).2 := rfl
    have hwaits : document.Waits 0 := Document.waits_listen_ofBuffer _ buffer name none
    have hon : Switch.isOn document = false := rfl
    have hlevel : ∀ level, document.level? = some level → level = editor.config.level := nofun
    rw [houtcome]
    exact announces_shelve (Nat.zero_le 1) rfl hwaits hon hlevel rfl rfl rfl rfl
  | some language =>
    rcases addDocument_cases editor editor.freshId buffer name language with
      ⟨cause, -, h⟩ | ⟨rules, baseRules, supply, -, -, -, ⟨-, h⟩ | ⟨tree, -, h⟩⟩
    · simp only [outcome, h]
      exact announces_refl editor
    · simp only [outcome, h]
      exact announces_quiet rfl rfl (Or.inl rfl) rfl rfl
    · let lit := (Document.ofBuffer editor.freshId buffer name (some language)).listen.lit
        ⟨language, some tree, []⟩ rules editor.baseFeatures editor.config.level
      have hwaits : lit.Waits 1 := rfl
      have hon : Switch.isOn lit = false := rfl
      have hlevel : ∀ level, lit.level? = some level → level = editor.config.level := by
        intro level hsome
        exact (Option.some.inj hsome).symm
      simp only [outcome, h]
      exact announces_shelve (Nat.le_refl 1) rfl hwaits hon hlevel rfl rfl rfl rfl

/-- What opening a file announces: nothing when it is open already or cannot be read. -/
theorem announces_openFile (editor : Editor) (disk : Disk) (path : String) :
    ∃ events, (editor.openFile disk path).2.announced = editor.announced ++ events ∧
      Announces editor (editor.openFile disk path).2 events := by
  unfold openFile
  split
  · next id hfind =>
    refine announces_quiet Shelf.documents_activate Shelf.order_activate ?_ rfl rfl
    dsimp only
    rw [Shelf.active_activate]
    split
    · next hmem => exact Or.inr ⟨id, hmem, rfl⟩
    · exact Or.inl rfl
  · unfold Document.ofFile
    cases Buffer.ofFile disk path with
    | error cause => exact announces_refl editor
    | ok buffer => exact announces_addDocument editor buffer _ _

/-- What an act does to the shelf, and what it announces. -/
theorem announces_perform (h : Settled editor) (act : Act) :
    ∃ events, (act.perform editor).announced = editor.announced ++ events ∧
      Announces editor (act.perform editor) events := by
  cases act with
  | openFile disk path => exact announces_openFile editor disk path
  | openText text language => exact announces_addDocument editor (Buffer.ofText text) _ language
  | close id => exact announces_close editor id
  | give id order => exact announces_give h id order
  | command registry order =>
    simp only [Act.perform, Act.execute_command]
    cases editor.shelf.active with
    | none => exact announces_refl editor
    | some id => exact announces_give h id order
  | insert id index text =>
    exact announces_onDocument h id _ (fun document => document.edited_insert index text)
  | delete id start stop =>
    exact announces_onDocument h id _ (fun document => document.edited_delete start stop)

end Opening

end Editor

/-! ## A run -/

namespace Settled

/-- The identity of the next document is not on the shelf. -/
theorem freshId_not_mem {editor : Editor} (h : Settled editor) :
    editor.freshId ∉ editor.shelf.order := by
  intro hmem
  exact Nat.lt_irrefl _ (h.fresh editor.freshId hmem)

/-- After an act nothing waits again. -/
theorem of_announces {before after : Editor} {events : List Event} (h : Settled before)
    (hstep : Announces before after events) : Settled after := by
  cases hstep with
  | quiet hdocuments horder hactive hnext =>
    refine ⟨⟨horder ▸ h.tidy.nodup, ?_⟩, ?_, ?_⟩
    · intro id hid
      rw [horder]
      rcases hactive with hsame | ⟨other, hother, hmoved⟩
      · exact h.tidy.active_mem id (hsame.symm.trans hid)
      · obtain rfl := Option.some.inj (hmoved.symm.trans hid)
        exact hother
    · rw [horder, hnext]
      exact h.fresh
    · rw [hdocuments]
      exact h.idle
  | opened document count _ hid hidle _ _ hshelf hnext =>
    refine ⟨hshelf ▸ h.tidy.add (hid ▸ h.freshId_not_mem), ?_, ?_⟩
    · intro id hmem
      rw [hshelf, Shelf.order_add] at hmem
      rw [hnext]
      rcases List.mem_append.mp hmem with hmem | hmem
      · exact Nat.lt_succ_of_lt (h.fresh id hmem)
      · rw [List.mem_singleton.mp hmem, hid]
        exact Nat.lt_succ_self _
    · intro other hmem
      rw [hshelf] at hmem
      rcases mem_add hmem with rfl | hmem
      · exact hidle
      · exact h.idle other hmem
  | closed hclose hnext =>
    obtain ⟨-, hdocuments, horder, -⟩ := Shelf.close_eq_some hclose
    refine ⟨h.tidy.close hclose, ?_, ?_⟩
    · intro id hmem
      rw [horder] at hmem
      rw [hnext]
      exact h.fresh id (List.mem_filter.mp hmem).1
    · intro other hmem
      rw [hdocuments] at hmem
      exact h.idle other (List.mem_filter.mp hmem).1
  | changed changed count _ _ hidle _ hshelf hnext =>
    refine ⟨hshelf ▸ h.tidy.replace, ?_, ?_⟩
    · rw [hshelf, Shelf.order_replace, hnext]
      exact h.fresh
    · intro other hmem
      rw [hshelf] at hmem
      rcases mem_replace hmem with rfl | ⟨hmem, -⟩
      · exact hidle
      · exact h.idle other hmem

end Settled

/-- An editor that was just built has announced nothing and is settled. -/
theorem settled_of_ofConfig {config : Config} {compiler : Compiler} {supply : Supply}
    {start : Editor} (h : Editor.ofConfig config compiler supply = .ok start) :
    Settled start ∧ start.announced = [] ∧ start.shelf = .empty ∧ start.config = config := by
  unfold Editor.ofConfig at h
  split at h
  · cases h
  · cases h
    refine ⟨⟨.empty, ?_, ?_⟩, rfl, rfl, rfl⟩
    · intro id hmem
      cases hmem
    · intro document hmem
      cases hmem

/-- What holds of an editor that was just built and is kept by every act holds after every run. -/
theorem announced_induction [ParseEngine] {P : Editor → Prop} {start : Editor}
    (hsettled : Settled start) (hstart : P start)
    (hstep : ∀ before after events, Settled before → before.config = start.config →
      after.announced = before.announced ++ events → Announces before after events →
      P before → P after)
    (acts : List Act) :
    Settled (Session.run ⟨start, []⟩ acts).editor ∧ P (Session.run ⟨start, []⟩ acts).editor := by
  have hrun : ∀ (acts : List Act) (session : Session), Settled session.editor →
      session.editor.config = start.config → P session.editor →
      Settled (session.run acts).editor ∧ P (session.run acts).editor := by
    intro acts
    induction acts with
    | nil => exact fun session hsession _ hP => ⟨hsession, hP⟩
    | cons act acts ih =>
      intro session hsession hconfig hP
      obtain ⟨events, hannounced, hannounces⟩ := Editor.announces_perform hsession act
      have hnext : (act.perform session.editor).config = start.config :=
        (act.turn session.editor).config_eq.trans hconfig
      exact ih (session.step act) (hsession.of_announces hannounces) hnext
        (hstep _ _ events hsession hconfig hannounced hannounces hP)
  exact hrun acts ⟨start, []⟩ hsettled rfl hstart

end Dimming
