import Dimming.Proofs.Editors.Announced

/-!
# Attempts that fail

An attempt that fails tells why, and it leaves the editor as it was before: all documents, their order,
the active one and the bus. Whether it will fail, and why, is known before it is made. So a number of
attempts, whatever they are, lead to where those of them that succeed would lead alone.

This takes an engine that gives no text up: an edit of which the text is given up fails when the buffer
has taken it already. It also takes an editor that can come about, for in such an editor nothing waits to be
delivered when an attempt is made.
-/

set_option autoImplicit false

namespace Dimming

open Proofs.EditorHistory

namespace Editor

/-- No document of an identity is open. -/
def Absent (editor : Editor) (id : DocumentId) (cause : EditorError) : Prop :=
  id ∉ editor.shelf.order ∧ cause = .documentNotFound id

/-- The base rules of a language are not known yet, and they do not compile. -/
def Unruled (editor : Editor) (language : Language) (cause : EditorError) : Prop :=
  baseOf editor.baseRules language = none ∧
    ∃ fault, Tables.baseRules editor.supply language = .error fault ∧ cause = .language fault

/-- An operation fails for the given reasons and for no others, and then it leaves the editor as it was. -/
structure FailsFor {α : Type} (editor : Editor) (reason : EditorError → Prop)
    (outcome : Outcome α) : Prop where
  exact : ∀ cause, outcome.1 = .error cause ↔ reason cause
  unchanged : ∀ cause, outcome.1 = .error cause → outcome.2 = editor

namespace FailsFor

variable {α : Type} {editor after : Editor} {reason : EditorError → Prop}

/-- A success is right where there is no reason to fail. -/
theorem of_ok {answer : α} (h : ∀ cause, ¬ reason cause) :
    editor.FailsFor reason (.ok answer, after) where
  exact cause := ⟨nofun, fun hreason => absurd hreason (h cause)⟩
  unchanged := nofun

/-- A failure that changes nothing is right where it is the one reason to fail. -/
theorem of_error {cause : EditorError} (h : ∀ other, reason other ↔ other = cause) :
    editor.FailsFor reason ((.error cause, editor) : Outcome α) where
  exact other := by
    rw [h other, Except.error.injEq]
    exact eq_comm
  unchanged _ _ := rfl

/-- A command that drops the answer of an operation fails for the same reasons. -/
theorem dropAnswer {outcome : Outcome α} (h : editor.FailsFor reason outcome) :
    editor.FailsFor reason (CommandRegistry.dropAnswer outcome) := by
  have hsame : ∀ cause, (CommandRegistry.dropAnswer outcome).1 = .error cause ↔
      outcome.1 = .error cause := by
    intro cause
    unfold CommandRegistry.dropAnswer
    cases outcome.1 <;> simp [Except.map]
  exact ⟨fun cause => (hsame cause).trans (h.exact cause),
    fun cause hfail => h.unchanged cause ((hsame cause).mp hfail)⟩

end FailsFor

/-! ## One operation -/

/-- An operation that needs a document and always succeeds on it fails where the document is not open. -/
theorem failsFor_absent {α : Type} {editor : Editor} {id : DocumentId} {outcome : Outcome α}
    (hnone : editor.shelf.get? id = none → outcome = (.error (.documentNotFound id), editor))
    (hsome : ∀ document, editor.shelf.get? id = some document →
      ∃ answer after, outcome = (.ok answer, after)) :
    editor.FailsFor (editor.Absent id) outcome := by
  cases hget : editor.shelf.get? id with
  | none =>
    have habsent := Shelf.get?_eq_none.mp hget
    rw [hnone hget]
    exact .of_error (fun other => and_iff_right habsent)
  | some document =>
    have hpresent := Shelf.mem_order_of_get? hget
    obtain ⟨answer, after, houtcome⟩ := hsome document hget
    rw [houtcome]
    exact .of_ok (fun _ habsent => habsent.1 hpresent)

/-- Turning the overlay on or off fails only for a document that is not open. -/
theorem setOverlay_failsFor (editor : Editor) (id : DocumentId) (on : Bool) :
    editor.FailsFor (editor.Absent id) (editor.setOverlay id on) := by
  refine failsFor_absent (fun hget => ?_) (fun document hget => ?_)
  · simp [setOverlay, hget]
  · simp [setOverlay, hget]

/-- Toggling the overlay fails only for a document that is not open. -/
theorem toggleOverlay_failsFor (editor : Editor) (id : DocumentId) :
    editor.FailsFor (editor.Absent id) (editor.toggleOverlay id) := by
  refine failsFor_absent (fun hget => ?_) (fun document hget => ?_)
  · simp [toggleOverlay, hget]
  · simp [toggleOverlay, hget]

/-- Changing the level fails only for a document that is not open. -/
theorem setLevel_failsFor (editor : Editor) (id : DocumentId) (level : Nat) :
    editor.FailsFor (editor.Absent id) (editor.setLevel id level) := by
  refine failsFor_absent (fun hget => ?_) (fun document hget => ?_)
  · simp [setLevel, hget]
  · simp [setLevel, hget]

/-- Closing fails only for a document that is not open. -/
theorem closeDocument_failsFor (editor : Editor) (id : DocumentId) :
    editor.FailsFor (editor.Absent id) (editor.closeDocument id) := by
  refine failsFor_absent (fun hget => ?_) (fun document hget => ?_)
  · simp [closeDocument, Shelf.close, hget]
  · simp [closeDocument, Shelf.close, hget]

/-- Looking up the base rules of a language fails only when they do not compile. -/
theorem rulesFor_failsFor (editor : Editor) (language : Language) :
    editor.FailsFor (editor.Unruled language) (editor.rulesFor language) := by
  unfold rulesFor Unruled baseOf
  cases editor.baseRules.find? (fun entry => decide (entry.1 = language)) with
  | some entry => exact .of_ok (by simp)
  | none =>
    dsimp only
    cases hcompile : Tables.baseRules editor.supply language with
    | error cause => exact .of_error (by simp)
    | ok compiled => exact .of_ok (by simp)

/-- A document that nothing was done to is settled without a trace. -/
theorem settle_self {editor : Editor} (h : Settled editor) {id : DocumentId} {document : Document}
    (hget : editor.shelf.get? id = some document) : editor.settle document = editor := by
  have hmem := (mem_of_get? hget).1
  have hwaits : document.outbox = some [] := h.idle document hmem
  have houtbox : document.outbox.map (fun _ => ([] : List Event)) = document.outbox := by
    rw [hwaits]
    rfl
  have hevents : document.outbox.getD [] = [] := by
    rw [hwaits]
    rfl
  have hdeliver : document.deliver = ([], document) := by rw [Document.deliver, houtbox, hevents]
  simp only [settle, hdeliver, Shelf.replace_self hmem]
  rfl

section Opening

variable [ParseEngine] [ReliableEngine]

/-- An edit that the buffer of some documents refuses fails in these alone. -/
theorem edit_failsFor {editor : Editor} (h : Settled editor) (id : DocumentId)
    (change : Document → Document.Outcome Unit)
    (hedited : ∀ document : Document, document.Edited (change document)) (bad : Document → Prop)
    (fault : BufferError)
    (hbad : ∀ document cause, (change document).1 = .error (.buffer cause) ↔
      bad document ∧ cause = fault) :
    editor.FailsFor
      (fun cause => editor.Absent id cause ∨
        ∃ document, editor.shelf.get? id = some document ∧ bad document ∧ cause = .buffer fault)
      (editor.onDocument id change) := by
  unfold onDocument
  cases hget : editor.shelf.get? id with
  | none =>
    refine .of_error (fun other => ?_)
    simp [Absent, Shelf.get?_eq_none.mp hget]
  | some document =>
    have hmem := Shelf.mem_order_of_get? hget
    rcases (hedited document).refused_or_ok with ⟨cause, hrefused⟩ | hok
    · obtain ⟨hdocument, rfl⟩ := (hbad document cause).mp (congrArg Prod.fst hrefused)
      simp only [hrefused, settle_self h hget]
      refine .of_error (fun other => ?_)
      simp [Absent, hmem, hdocument, EditorError.ofDocument]
    · have hgood : ¬ bad document := by
        intro hdocument
        cases hok.symm.trans ((hbad document fault).mpr ⟨hdocument, rfl⟩)
      simp only [hok]
      refine .of_ok (fun other => ?_)
      simp [Absent, hmem, hgood]

/-- Adding a document fails where the base rules of its language cannot be had. -/
theorem addDocument_failsFor (editor : Editor) (document : Document) :
    editor.FailsFor
      (fun cause => ∃ language, document.language = some language ∧ editor.Unruled language cause)
      (editor.addDocument document) := by
  have hlisten : document.listen.language = document.language := rfl
  unfold addDocument
  simp only [hlisten]
  cases document.language with
  | none => exact .of_ok (by simp)
  | some language =>
    obtain ⟨hexact, hunchanged⟩ := rulesFor_failsFor editor language
    simp only [Option.some.injEq, exists_eq_left']
    cases hrules : editor.rulesFor language with
    | mk answer after =>
      rw [hrules] at hexact hunchanged
      cases answer with
      | ok rules =>
        have hlit := document.listen.enableHighlighting_ok rules after.baseFeatures after.config.level
        rcases hdocument : document.listen.enableHighlighting rules after.baseFeatures
          after.config.level with ⟨answer, lit⟩
        rw [hdocument] at hlit
        subst hlit
        simp only [hdocument]
        exact .of_ok (fun cause hreason => nomatch (hexact cause).mpr hreason)
      | error cause =>
        -- compiling the rules failed, and with it nothing else was begun
        obtain rfl := hunchanged cause rfl
        refine .of_error (fun other => ?_)
        rw [← hexact other, Except.error.injEq]
        exact eq_comm

/-- Why opening a file fails: it is not open already, and it cannot be read, or there are no base rules for
its language. -/
def Unopened (editor : Editor) (disk : Disk) (path : String) (cause : EditorError) : Prop :=
  editor.shelf.findByPath path = none ∧
    ((∃ fault, disk.read path = .error fault ∧ cause = .buffer (.disk fault)) ∨
      ∃ text language, disk.read path = .ok text ∧ Language.ofPath? path = some language ∧
        editor.Unruled language cause)

/-- Opening a file fails only for the reasons that its disk or its language gives. -/
theorem openFile_failsFor (editor : Editor) (disk : Disk) (path : String) :
    editor.FailsFor (editor.Unopened disk path) (editor.openFile disk path) := by
  unfold openFile Unopened
  cases editor.shelf.findByPath path with
  | some id => exact .of_ok (by simp)
  | none =>
    simp only [Document.ofFile, Buffer.ofFile, true_and]
    cases disk.read path with
    | error fault => exact .of_error (by simp)
    | ok text =>
      have hadd := addDocument_failsFor editor (Document.ofBuffer editor.freshId
        ⟨text.toList, false, some path⟩ ((Path.fileName? path).getD "Unknown")
        (Language.ofPath? path))
      simpa [Document.ofBuffer] using hadd

end Opening

end Editor

/-! ## Any attempt -/

namespace Proofs.EditorHistory

/-- An order fails only for a document that is not open. -/
theorem Order.outcome_failsFor (editor : Editor) (id : DocumentId) (order : Order) :
    editor.FailsFor (editor.Absent id) (order.outcome editor id) := by
  cases order with
  | turn on => exact (editor.setOverlay_failsFor id on).dropAnswer
  | turnOver => exact (editor.toggleOverlay_failsFor id).dropAnswer
  | setLevel level => exact editor.setLevel_failsFor id level

/-- What can be asked of an editor: an act, or a command of a name that no handler is registered for. -/
inductive Attempt where
  | act (act : Act)
  | unknown (registry : CommandRegistry) (name : String) (arguments : List String)
      (hunknown : registry.find? name = none)

namespace Attempt

/-- The answer to an attempt, and the editor after it. -/
def outcome [ParseEngine] (editor : Editor) : Attempt → Editor.Outcome Unit
  | .act (.openFile disk path) => CommandRegistry.dropAnswer (editor.openFile disk path)
  | .act (.openText text language) => CommandRegistry.dropAnswer (editor.openText text language)
  | .act (.close id) => editor.closeDocument id
  | .act (.give id order) => order.outcome editor id
  | .act (.command registry order) => registry.execute order.command editor
  | .act (.insert id index text) => editor.insert id index text
  | .act (.delete id start stop) => editor.delete id start stop
  | .unknown registry name arguments _ => registry.execute (.custom name arguments) editor

/-- The editor after an attempt. -/
def after [ParseEngine] (editor : Editor) (attempt : Attempt) : Editor := (attempt.outcome editor).2

/-- Of some attempts, those that succeed. -/
def succeeding [ParseEngine] (editor : Editor) : List Attempt → List Attempt
  | [] => []
  | attempt :: attempts =>
    match (attempt.outcome editor).1 with
    | .ok _ => attempt :: succeeding (after editor attempt) attempts
    | .error _ => succeeding (after editor attempt) attempts

/-- An attempt leads to where the act leads, or to nothing. -/
theorem after_eq [ParseEngine] (editor : Editor) (attempt : Attempt) :
    after editor attempt = editor ∨ ∃ act : Act, after editor attempt = act.perform editor := by
  cases attempt with
  | unknown registry name arguments hunknown =>
    refine Or.inl ?_
    simp only [after, outcome, CommandRegistry.execute, hunknown]
  | act act =>
    refine Or.inr ⟨act, ?_⟩
    cases act with
    | give id order => exact order.outcome_snd editor id
    | _ => rfl

/-- Between two attempts nothing waits to be delivered. -/
theorem settled_after [ParseEngine] {editor : Editor} (h : Settled editor) (attempt : Attempt) :
    Settled (after editor attempt) := by
  rcases after_eq editor attempt with hsame | ⟨act, hact⟩
  · rw [hsame]
    exact h
  · obtain ⟨events, -, hannounces⟩ := Editor.announces_perform h act
    rw [hact]
    exact h.of_announces hannounces

/-- Why an attempt fails, told of the editor before it. -/
def reason (editor : Editor) : Attempt → EditorError → Prop
  | .act (.openFile disk path), cause => editor.Unopened disk path cause
  | .act (.openText _ language), cause =>
    ∃ known, language = some known ∧ editor.Unruled known cause
  | .act (.close id), cause => editor.Absent id cause
  | .act (.give id _), cause => editor.Absent id cause
  | .act (.command _ _), cause =>
    match editor.shelf.active with
    | none => cause = .noActiveDocument
    | some id => editor.Absent id cause
  | .act (.insert id index _), cause => editor.Absent id cause ∨
    ∃ document, editor.shelf.get? id = some document ∧
      document.buffer.charCount < index ∧ cause = .buffer (.invalidCharIndex index)
  | .act (.delete id start stop), cause => editor.Absent id cause ∨
    ∃ document, editor.shelf.get? id = some document ∧
      (stop < start ∨ document.buffer.charCount < stop) ∧
      cause = .buffer (.invalidRange start stop)
  | .unknown _ name _ _, cause => cause = .commandNotFound name

/-- A built-in command fails only when nothing is open. -/
theorem command_failsFor (editor : Editor) (registry : CommandRegistry) (order : Order) :
    editor.FailsFor (reason editor (.act (.command registry order)))
      (registry.execute order.command editor) := by
  rw [Act.execute_command_eq]
  unfold reason
  cases editor.shelf.active with
  | none => exact .of_error (fun _ => Iff.rfl)
  | some id => exact order.outcome_failsFor editor id

variable [ParseEngine] [ReliableEngine]

/-- Every attempt fails for its reasons alone, and then it leaves the editor as it was. -/
theorem outcome_failsFor {editor : Editor} (h : Settled editor) (attempt : Attempt) :
    editor.FailsFor (attempt.reason editor) (attempt.outcome editor) := by
  cases attempt with
  | unknown registry name arguments hunknown =>
    simp only [outcome, CommandRegistry.execute, hunknown]
    exact .of_error (fun _ => Iff.rfl)
  | act act =>
    cases act with
    | openFile disk path => exact (editor.openFile_failsFor disk path).dropAnswer
    | openText text language =>
      exact (editor.addDocument_failsFor (Document.ofText editor.freshId text language)).dropAnswer
    | close id => exact editor.closeDocument_failsFor id
    | give id order => exact order.outcome_failsFor editor id
    | command registry order => exact command_failsFor editor registry order
    | insert id index text =>
      exact Editor.edit_failsFor h id _ (fun document => document.edited_insert index text) _ _
        (fun document cause => document.insert_buffer_error)
    | delete id start stop =>
      exact Editor.edit_failsFor h id _ (fun document => document.edited_delete start stop) _ _
        (fun document cause => document.delete_buffer_error)

/-- Without the attempts that failed the editor would be the same. -/
theorem foldl_succeeding {editor : Editor} (h : Settled editor) (attempts : List Attempt) :
    (succeeding editor attempts).foldl after editor = attempts.foldl after editor := by
  induction attempts generalizing editor with
  | nil => rfl
  | cons attempt attempts ih =>
    rw [succeeding, List.foldl_cons, ← ih (settled_after h attempt)]
    cases hanswer : (attempt.outcome editor).1 with
    | ok answer => rfl
    | error cause =>
      have hunchanged : after editor attempt = editor :=
        (outcome_failsFor h attempt).unchanged cause hanswer
      rw [hunchanged]

end Attempt

end Proofs.EditorHistory

end Dimming

namespace Dimming.Proofs.EditorAttempts

open EditorHistory

/-- An editor that can come about: one that was just built, one after an act, one of which a document was
asked whether it wants to be repainted, or one after anything else that was done to an open document. -/
inductive Reachable [ParseEngine] : Editor → Prop where
  | built {config : Config} {compiler : Compiler} {supply : Supply} {editor : Editor}
      (h : Editor.ofConfig config compiler supply = .ok editor) : Reachable editor
  | acted {editor : Editor} (h : Reachable editor) (act : Act) : Reachable (act.perform editor)
  | looked {editor : Editor} (h : Reachable editor) (id : DocumentId) :
      Reachable (editor.takeRepaint id).2
  | handled {editor : Editor} (h : Reachable editor) {id : DocumentId} {document : Document}
      (hget : editor.shelf.get? id = some document) (act : DocumentRun.Act) :
      Reachable ({ editor with supply := (act.perform document editor.supply).2 }.settle
        (act.perform document editor.supply).1)

/-- What is done to a document keeps its identity, and leaves nothing but requests for a repaint behind. -/
theorem waits_perform [ParseEngine] {document : Document} (h : document.Waits 0) (supply : Supply)
    (act : DocumentRun.Act) :
    (act.perform document supply).1.id = document.id ∧
      ∃ count, (act.perform document supply).1.Waits count := by
  have hasks : document.Asks (act.perform document supply).1 →
      (act.perform document supply).1.id = document.id ∧
        ∃ count, (act.perform document supply).1.Waits count := by
    intro hasks
    obtain ⟨count, -, hwaits⟩ := hasks.waits h
    exact ⟨hasks.id_eq, _, hwaits⟩
  cases act with
  | insert index text =>
    have hedited := document.edited_insert index text
    exact ⟨hedited.id_eq, hedited.waits h⟩
  | delete start stop =>
    have hedited := document.edited_delete start stop
    exact ⟨hedited.id_eq, hedited.waits h⟩
  | highlight rules features level =>
    exact hasks (document.asks_enableHighlighting rules features level)
  | setLevel level => exact hasks (document.asks_setLevel level)
  | enable controller => exact hasks (document.asks_enable controller supply)
  | disable => exact hasks document.asks_disable
  | set switch on => exact hasks (document.asks_set switch supply on)
  | toggle switch => exact hasks (document.asks_set switch supply _)

/-- When a document is settled, nothing waits in it any more. -/
theorem settled_settle {editor : Editor} (h : Settled editor) {changed : Document} {count : Nat}
    (hwaits : changed.Waits count) : Settled (editor.settle changed) where
  tidy := h.tidy.replace
  fresh := h.fresh
  idle := by
    intro other hmem
    rcases mem_replace hmem with rfl | ⟨hmem, -⟩
    · exact hwaits.deliver.2
    · exact h.idle other hmem

/-- In an editor that can come about nothing waits to be delivered. -/
theorem Reachable.settled [ParseEngine] {editor : Editor} (h : Reachable editor) : Settled editor := by
  induction h with
  | built h => exact (settled_of_ofConfig h).1
  | acted _ act ih =>
    obtain ⟨events, -, hannounces⟩ := Editor.announces_perform ih act
    exact ih.of_announces hannounces
  | @looked editor _ id ih =>
    unfold Editor.takeRepaint Editor.onDocument
    split
    · exact ih
    · next document hget =>
      have hwaits : document.takeRepaint.2.Waits 0 := ih.idle document (mem_of_get? hget).1
      exact settled_settle ih hwaits
  | @handled editor _ id document hget act ih =>
    obtain ⟨-, count, hwaits⟩ :=
      waits_perform (ih.idle document (mem_of_get? hget).1) editor.supply act
    have hsupplied : Settled { editor with supply := (act.perform document editor.supply).2 } :=
      ⟨ih.tidy, ih.fresh, ih.idle⟩
    exact settled_settle hsupplied hwaits

/-- Every moment of a run can come about. -/
theorem reachable_run [ParseEngine] {session : Session} (h : Reachable session.editor)
    (acts : List Act) : Reachable (session.run acts).editor := by
  induction acts generalizing session with
  | nil => exact h
  | cons act acts ih => exact ih (h.acted act)

/-- Attempts that fail leave no trace, under an engine that gives no text up. After any attempts, on any
editor that can come about, an attempt that fails leaves the documents, their order, the active one, the
bus and all else as they were; it fails exactly for the reasons that are told of the editor before it; and
without the attempts that failed the editor would be the same. -/
theorem failed_attempts_leave_no_trace [ParseEngine] [ReliableEngine] {editor : Editor}
    (h : Reachable editor) (attempts : List Attempt) :
    let last := attempts.foldl Attempt.after editor
    (∀ (next : Attempt) (cause : EditorError),
      (next.outcome last).1 = .error cause → next.after last = last) ∧
    (∀ (next : Attempt) (cause : EditorError),
      (next.outcome last).1 = .error cause ↔ next.reason last cause) ∧
    last = (Attempt.succeeding editor attempts).foldl Attempt.after editor := by
  intro last
  have hlast : Settled last :=
    List.foldlRecOn attempts Attempt.after h.settled (fun _ hsettled attempt _ =>
      attempt.settled_after hsettled)
  refine ⟨?_, ?_, (Attempt.foldl_succeeding h.settled attempts).symm⟩
  · intro next cause hfail
    exact (next.outcome_failsFor hlast).unchanged cause hfail
  · intro next cause
    exact (next.outcome_failsFor hlast).exact cause

/-- A dimmed document of one character, with a request for a repaint, is asked for more than it has. -/
theorem failed_attempts_leave_no_trace_dimmed :
    ∃ start, Editor.ofConfig .default idleCompiler .initial = .ok start ∧
      let editor := (Session.run ⟨start, []⟩ dimmedRun).editor
      let attempt := Attempt.act (.insert ⟨0⟩ 2 "x")
      editor.shelf.documents.map (fun document => (document.id, document.repaintPending)) =
          [(⟨0⟩, true)] ∧
        (attempt.outcome editor).1 = .error (.buffer (.invalidCharIndex 2)) ∧
        attempt.after editor = editor := by
  refine ⟨_, rfl, ?_⟩
  intro editor attempt
  have hreachable : Reachable editor :=
    reachable_run (@Reachable.built _ .default idleCompiler .initial _ rfl) dimmedRun
  have hwaiting : editor.shelf.documents.map (fun document => (document.id, document.repaintPending)) =
      [(⟨0⟩, true)] := by decide +kernel
  have hcounts : (editor.shelf.get? ⟨0⟩).map (fun document => document.buffer.charCount) =
      some 1 := by decide +kernel
  clear_value editor
  obtain ⟨document, hget, hcount⟩ := Option.map_eq_some_iff.mp hcounts
  obtain ⟨hunchanged, hreason, -⟩ := failed_attempts_leave_no_trace hreachable []
  have hfail : (attempt.outcome editor).1 = .error (.buffer (.invalidCharIndex 2)) := by
    refine (hreason attempt _).mpr (Or.inr ⟨document, hget, ?_, rfl⟩)
    omega
  exact ⟨hwaiting, hfail, hunchanged attempt _ hfail⟩

end Dimming.Proofs.EditorAttempts
