import Dimming.Proofs.Editors.Announced
import Dimming.Proofs.Editors.Refusals
import Mathlib.Data.List.Induction

/-!
# The active document

A shelf keeps its documents, their order and the active document in three places. Whatever is added,
closed and made active, the three agree: the order has the open documents as they were added, each once,
and one of them is active as soon as there is any. A built-in command acts on the active document, so in
an editor it fails for one reason alone, which is that nothing is open.
-/

set_option autoImplicit false

namespace Dimming

open Proofs.EditorHistory

namespace Shelf

variable {shelf after : Shelf} {id : DocumentId} {document : Document}

/-- Where nothing is active, nothing is open. -/
def Led (shelf : Shelf) : Prop := shelf.active = none → shelf.order = []

/-- The order is empty exactly when no document is there. -/
theorem order_eq_nil : shelf.order = [] ↔ shelf.documents = [] := by
  constructor
  · intro horder
    rw [List.eq_nil_iff_forall_not_mem]
    intro document hmem
    have hlisted := mem_order.mpr ⟨document, hmem, rfl⟩
    rw [horder] at hlisted
    cases hlisted
  · intro hdocuments
    rw [List.eq_nil_iff_forall_not_mem]
    intro id hlisted
    obtain ⟨document, hmem, -⟩ := mem_order.mp hlisted
    rw [hdocuments] at hmem
    cases hmem

namespace Led

/-- On an empty shelf nothing is open. -/
theorem empty : Shelf.empty.Led := fun _ => rfl

/-- A document that is added is active. -/
theorem add : (shelf.add document).Led := nofun

/-- After the active document is closed, the last one in the order is active. -/
theorem close (h : shelf.Led) (hclose : shelf.close id = some (document, after)) : after.Led := by
  obtain ⟨-, -, horder, hactive⟩ := close_eq_some hclose
  intro hnone
  rw [hnone] at hactive
  split at hactive
  · exact List.getLast?_eq_none_iff.mp hactive.symm
  · rw [horder, h hactive.symm]
    rfl

/-- Making a document active closes nothing. -/
theorem activate (h : shelf.Led) : (shelf.activate id).Led := by
  intro hnone
  rw [active_activate] at hnone
  rw [order_activate]
  split at hnone
  · cases hnone
  · exact h hnone

/-- On a tidy shelf, exactly where no document is open, none is active. -/
theorem active_eq_none (h : shelf.Led) (htidy : shelf.Tidy) :
    shelf.active = none ↔ shelf.documents = [] := by
  rw [← order_eq_nil]
  refine ⟨h, fun horder => ?_⟩
  cases hactive : shelf.active with
  | none => rfl
  | some id =>
    have hlisted := htidy.active_mem id hactive
    rw [horder] at hlisted
    cases hlisted

end Led

/-- On a tidy shelf the order is as long as there are documents. -/
theorem Tidy.size_eq (h : shelf.Tidy) : shelf.size = shelf.order.length := by
  have hperm : shelf.order.Perm (shelf.documents.map (·.id)) :=
    (List.perm_ext_iff_of_nodup h.nodup shelf.keyed).mpr shelf.listed
  rw [hperm.length_eq, List.length_map, size]

/-- A tidy shelf stays so when a document is made active, for it has to be an open one. -/
theorem Tidy.activate (h : shelf.Tidy) : (shelf.activate id).Tidy where
  nodup := by
    rw [order_activate]
    exact h.nodup
  active_mem := by
    intro other hother
    rw [active_activate] at hother
    rw [order_activate]
    split at hother
    · next hmem => exact Option.some.inj hother ▸ hmem
    · exact h.active_mem other hother

end Shelf

/-! ## Runs of a shelf -/

inductive ShelfStep where
  | add (document : Document)
  | close (id : DocumentId)
  | activate (id : DocumentId)

namespace ShelfStep

/-- The shelf after a step; where there is nothing to close it stays as it is. -/
def perform (shelf : Shelf) : ShelfStep → Shelf
  | .add document => shelf.add document
  | .close id => ((shelf.close id).map (·.2)).getD shelf
  | .activate id => shelf.activate id

def added? : ShelfStep → Option DocumentId
  | .add document => some document.id
  | _ => none

/-- The identities that some steps add, in order. -/
def added (steps : List ShelfStep) : List DocumentId := steps.filterMap added?

/-- By some steps a document was added, and it was not closed after that. -/
def LeavesOpen (steps : List ShelfStep) (id : DocumentId) : Prop :=
  ∃ before document later,
    steps = before ++ .add document :: later ∧ document.id = id ∧ .close id ∉ later

/-- The last step may close a document that was left open, or add one. -/
theorem leavesOpen_concat {steps : List ShelfStep} {step : ShelfStep} {id : DocumentId} :
    LeavesOpen (steps ++ [step]) id ↔
      (LeavesOpen steps id ∧ step ≠ .close id) ∨ ∃ document, step = .add document ∧ document.id = id := by
  constructor
  · rintro ⟨before, document, later, hsteps, hid, hlater⟩
    -- the document was added by the last step, or before it
    rcases List.eq_nil_or_concat later with rfl | ⟨middle, last, rfl⟩
    · obtain ⟨-, hlast⟩ := List.append_inj' hsteps rfl
      exact Or.inr ⟨document, List.singleton_inj.mp hlast, hid⟩
    · rw [List.concat_eq_append, ← List.cons_append, ← List.append_assoc] at hsteps
      obtain ⟨hsteps, hlast⟩ := List.append_inj' hsteps rfl
      rw [List.concat_eq_append, List.mem_append, not_or, List.mem_singleton,
        ← List.singleton_inj.mp hlast] at hlater
      exact Or.inl ⟨⟨before, document, middle, hsteps, hid, hlater.1⟩, Ne.symm hlater.2⟩
  · rintro (⟨⟨before, document, later, rfl, hid, hlater⟩, hstep⟩ | ⟨document, rfl, hid⟩)
    · refine ⟨before, document, later ++ [step], by simp, hid, ?_⟩
      rw [List.mem_append, List.mem_singleton, not_or]
      exact ⟨hlater, Ne.symm hstep⟩
    · exact ⟨steps, document, [], rfl, hid, nofun⟩

/-- What is known of the shelf after some steps: its order has the documents that were left open, as they
were added, and one of them is active as soon as there is any. -/
structure Arranged (steps : List ShelfStep) (shelf : Shelf) : Prop where
  tidy : shelf.Tidy
  led : shelf.Led
  inOrder : shelf.order.Sublist (added steps)
  isOpen : ∀ id, id ∈ shelf.order ↔ LeavesOpen steps id

namespace Arranged

variable {steps : List ShelfStep} {shelf : Shelf}

/-- An empty shelf is arranged after no steps. -/
theorem empty : Arranged [] .empty where
  tidy := .empty
  led := .empty
  inOrder := List.nil_sublist _
  isOpen id := by
    refine ⟨nofun, ?_⟩
    rintro ⟨before, document, later, hsteps, -, -⟩
    exact absurd hsteps (by simp)

/-- A document of an identity that was never added before can be added. -/
theorem add (h : Arranged steps shelf) {document : Document} (hnew : document.id ∉ added steps) :
    Arranged (steps ++ [.add document]) (shelf.add document) where
  tidy := h.tidy.add (fun hmem => hnew (h.inOrder.subset hmem))
  led := .add
  inOrder := by
    rw [added, List.filterMap_append]
    exact h.inOrder.append (List.Sublist.refl _)
  isOpen id := by
    rw [Shelf.order_add, List.mem_append, List.mem_singleton, h.isOpen, leavesOpen_concat]
    simp [eq_comm]

/-- A shelf stays arranged when a document is closed. -/
theorem close (h : Arranged steps shelf) (id : DocumentId) :
    Arranged (steps ++ [.close id]) (perform shelf (.close id)) := by
  have hadded : added (steps ++ [.close id]) = added steps := by simp [added, added?]
  have hleaves : ∀ other, LeavesOpen (steps ++ [.close id]) other ↔
      LeavesOpen steps other ∧ other ≠ id := by
    intro other
    rw [leavesOpen_concat]
    simp [eq_comm]
  cases hclose : shelf.close id with
  | none =>
    have hsame : perform shelf (.close id) = shelf := by simp [perform, hclose]
    have habsent : id ∉ shelf.order := by
      rw [← Shelf.get?_eq_none]
      exact Option.map_eq_none_iff.mp hclose
    rw [hsame]
    refine ⟨h.tidy, h.led, hadded ▸ h.inOrder, ?_⟩
    intro other
    rw [hleaves, ← h.isOpen]
    refine ⟨fun hmem => ⟨hmem, ?_⟩, And.left⟩
    rintro rfl
    exact habsent hmem
  | some closed =>
    obtain ⟨document, after⟩ := closed
    have hafter : perform shelf (.close id) = after := by simp [perform, hclose]
    obtain ⟨-, -, horder, -⟩ := Shelf.close_eq_some hclose
    rw [hafter]
    refine ⟨h.tidy.close hclose, h.led.close hclose, ?_, ?_⟩
    · rw [hadded, horder]
      exact List.filter_sublist.trans h.inOrder
    · intro other
      rw [hleaves, ← h.isOpen, horder, List.mem_filter, decide_eq_true_eq]

/-- A shelf stays arranged when a document is made active. -/
theorem activate (h : Arranged steps shelf) (id : DocumentId) :
    Arranged (steps ++ [.activate id]) (shelf.activate id) where
  tidy := h.tidy.activate
  led := h.led.activate
  inOrder := by
    have hadded : added (steps ++ [.activate id]) = added steps := by simp [added, added?]
    rw [hadded, Shelf.order_activate]
    exact h.inOrder
  isOpen other := by
    rw [Shelf.order_activate, h.isOpen, leavesOpen_concat]
    simp

end Arranged

/-- After steps that add each identity once, the shelf is arranged. -/
theorem arranged_run (steps : List ShelfStep) (hdistinct : (added steps).Nodup) :
    Arranged steps (steps.foldl perform .empty) := by
  -- from the front: what was left open is told by the steps that come later
  induction steps using List.reverseRecOn with
  | nil => exact .empty
  | append_singleton steps step ih =>
    have hfront : (added steps).Nodup := by
      rw [added, List.filterMap_append] at hdistinct
      exact (List.nodup_append.mp hdistinct).1
    have hbefore := ih hfront
    rw [List.foldl_concat]
    cases step with
    | add document =>
      refine hbefore.add ?_
      intro hmem
      rw [added, List.filterMap_append, List.nodup_append] at hdistinct
      exact hdistinct.2.2 document.id hmem document.id (List.mem_singleton_self _) rfl
    | close id => exact hbefore.close id
    | activate id => exact hbefore.activate id

end ShelfStep

/-! ## Commands of an editor -/

/-- After every run of an editor its shelf is tidy, and nothing is active only where nothing is open. -/
theorem led_run [ParseEngine] {config : Config} {compiler : Compiler} {supply : Supply}
    {start : Editor} (h : Editor.ofConfig config compiler supply = .ok start) (acts : List Act) :
    (Session.run ⟨start, []⟩ acts).editor.shelf.Tidy ∧
      (Session.run ⟨start, []⟩ acts).editor.shelf.Led := by
  obtain ⟨hsettled, -, hempty, -⟩ := settled_of_ofConfig h
  have hstart : start.shelf.Led := hempty ▸ .empty
  obtain ⟨hafter, hled⟩ := announced_induction (P := fun editor => editor.shelf.Led) hsettled hstart
    (by
      intro before after events hbefore _ _ hstep hled
      cases hstep with
      | quiet _ horder hactive _ =>
        intro hnone
        rcases hactive with hsame | ⟨id, -, hsome⟩
        · rw [horder, hled (hsame.symm.trans hnone)]
        · cases hnone.symm.trans hsome
      | opened document _ _ _ _ _ _ hshelf _ => exact hshelf ▸ .add
      | closed hclose _ => exact hled.close hclose
      | changed changed _ _ _ _ _ hshelf _ =>
        rw [hshelf]
        exact hled)
    acts
  exact ⟨hafter.tidy, hled⟩

/-- A built-in command gives an order. -/
theorem Command.exists_order (command : Command)
    (h : ∀ name arguments, command ≠ .custom name arguments) :
    ∃ order : Order, command = order.command := by
  cases command with
  | toggleOverlay => exact ⟨.turnOver, rfl⟩
  | enableOverlay => exact ⟨.turn true, rfl⟩
  | disableOverlay => exact ⟨.turn false, rfl⟩
  | setLevel level => exact ⟨.setLevel level, rfl⟩
  | custom name arguments => exact absurd rfl (h name arguments)

/-- An order for an open document succeeds. -/
theorem Proofs.EditorHistory.Order.outcome_of_mem (editor : Editor) {id : DocumentId}
    (h : id ∈ editor.shelf.order) (order : Order) : (order.outcome editor id).1 = .ok () := by
  cases hanswer : (order.outcome editor id).1 with
  | ok answer => rfl
  | error cause => exact absurd h (((order.outcome_failsFor editor id).exact cause).mp hanswer).1

end Dimming

namespace Dimming.Proofs.ActiveDocument

open EditorHistory ShelfStep

/-- Documents, order and active document agree, and built-in commands rest on that.
After any steps that add each identity once, the order has no identity twice; it has those that were added
and not closed, in the order in which they were added, and these are the identities of the open documents,
one for each; a document is active exactly if one is open, and it is an open one. Closing fails exactly for
a document that is not open. Closing the active document makes the last one of the remaining order active,
and closing another one leaves the active one as it is.
In an editor after any run a built-in command fails exactly if no document is open, with the cause that
none is active and without a trace; otherwise it succeeds and does to the active document what the order
does that it stands for. -/
theorem shelves_and_commands_agree [ParseEngine] (steps : List ShelfStep)
    (hdistinct : (added steps).Nodup) (config : Config) (compiler : Compiler) (supply : Supply)
    (start : Editor) (h : Editor.ofConfig config compiler supply = .ok start) (acts : List Act) :
    (let shelf := steps.foldl perform .empty
     shelf.order.Nodup ∧ shelf.order.Sublist (added steps) ∧
     (∀ id, id ∈ shelf.order ↔ LeavesOpen steps id) ∧
     (∀ id, id ∈ shelf.order ↔ ∃ document, shelf.get? id = some document ∧ document.id = id) ∧
     shelf.size = shelf.order.length ∧
     (shelf.active = none ↔ shelf.documents = []) ∧
     (∀ id, shelf.active = some id → id ∈ shelf.order) ∧
     (∀ id, shelf.close id = none ↔ id ∉ shelf.order) ∧
     ∀ id, (perform shelf (.close id)).active =
       if shelf.active = some id then (perform shelf (.close id)).order.getLast? else shelf.active) ∧
    let editor := (Session.run ⟨start, []⟩ acts).editor
    ∀ (registry : CommandRegistry) (command : Command),
      (∀ name arguments, command ≠ .custom name arguments) →
      let outcome := registry.execute command editor
      (outcome.1 = .error .noActiveDocument ↔ editor.shelf.documents = []) ∧
      (∀ id, outcome.1 ≠ .error (.documentNotFound id)) ∧
      (editor.shelf.documents = [] → outcome.2 = editor) ∧
      (editor.shelf.documents ≠ [] → ∃ id order, editor.shelf.active = some id ∧
        id ∈ editor.shelf.order ∧ command = Order.command order ∧
        outcome = order.outcome editor id ∧ outcome.1 = .ok ()) := by
  constructor
  · intro shelf
    obtain ⟨htidy, hled, hinOrder, hisOpen⟩ := arranged_run steps hdistinct
    have hfound : ∀ id, id ∈ shelf.order ↔ ∃ document, shelf.get? id = some document ∧
        document.id = id := by
      intro id
      refine ⟨fun hmem => ?_, fun ⟨document, hget, _⟩ => Shelf.mem_order_of_get? hget⟩
      obtain ⟨document, hdocument, rfl⟩ := Shelf.mem_order.mp hmem
      exact ⟨document, Shelf.get?_of_mem hdocument, rfl⟩
    have hclose : ∀ id, shelf.close id = none ↔ id ∉ shelf.order := by
      intro id
      rw [← Shelf.get?_eq_none]
      exact Option.map_eq_none_iff
    refine ⟨htidy.nodup, hinOrder, hisOpen, hfound, htidy.size_eq, hled.active_eq_none htidy,
      htidy.active_mem, hclose, ?_⟩
    intro id
    cases hresult : shelf.close id with
    | none =>
      have hsame : perform shelf (.close id) = shelf := by simp [perform, hresult]
      have hother : shelf.active ≠ some id := fun hactive =>
        (hclose id).mp hresult (htidy.active_mem id hactive)
      rw [hsame, if_neg hother]
    | some closed =>
      obtain ⟨document, after⟩ := closed
      have hafter : perform shelf (.close id) = after := by simp [perform, hresult]
      rw [hafter]
      exact (Shelf.close_eq_some hresult).2.2.2
  · intro editor registry command hbuiltIn outcome
    obtain ⟨order, rfl⟩ := command.exists_order hbuiltIn
    obtain ⟨htidy, hled⟩ := led_run h acts
    have hidle := hled.active_eq_none htidy
    have houtcome : outcome = _ := Act.execute_command_eq registry order editor
    cases hactive : editor.shelf.active with
    | none =>
      have hempty : editor.shelf.documents = [] := hidle.mp hactive
      rw [hactive] at houtcome
      refine ⟨⟨fun _ => hempty, fun _ => ?_⟩, ?_, ?_, fun hopen => absurd hempty hopen⟩
      · rw [houtcome]
      · intro id hother
        rw [houtcome] at hother
        cases hother
      · intro _
        rw [houtcome]
    | some id =>
      have hopen : editor.shelf.documents ≠ [] := by
        intro hempty
        cases hactive.symm.trans (hidle.mpr hempty)
      have hmem := htidy.active_mem id hactive
      rw [hactive] at houtcome
      have hok : outcome.1 = .ok () := by
        rw [houtcome]
        exact order.outcome_of_mem editor hmem
      refine ⟨⟨?_, fun hempty => absurd hempty hopen⟩, ?_, fun hempty => absurd hempty hopen,
        fun _ => ⟨id, order, rfl, hmem, rfl, houtcome, hok⟩⟩
      · intro hnone
        cases hok.symm.trans hnone
      · intro other habsent
        cases hok.symm.trans habsent

/-- The steps of a shelf on which the active document is closed, and documents that are not there are closed
and made active. -/
def closingSteps : List ShelfStep :=
  [.add (Document.ofText ⟨0⟩ "" none), .add (Document.ofText ⟨1⟩ "" none), .activate ⟨2⟩,
    .close ⟨1⟩, .close ⟨1⟩]

/-- After these steps the first document is left and active; and in an editor a command goes to the active
document. -/
theorem shelves_and_commands_agree_closing :
    (added closingSteps).Nodup ∧ ∃ start, Editor.ofConfig .default idleCompiler .initial = .ok start ∧
      (let shelf := closingSteps.foldl perform .empty
       shelf.order = [⟨0⟩] ∧ shelf.active = some ⟨0⟩ ∧ LeavesOpen closingSteps ⟨0⟩ ∧
         ¬ LeavesOpen closingSteps ⟨1⟩) ∧
      let editor := (Session.run ⟨start, []⟩ dimmedRun).editor
      ∃ id order, editor.shelf.active = some id ∧ Command.toggleOverlay = Order.command order ∧
        CommandRegistry.empty.execute .toggleOverlay editor = order.outcome editor id := by
  have hdistinct : (added closingSteps).Nodup := by decide
  obtain ⟨start, hstart⟩ : ∃ start, Editor.ofConfig .default idleCompiler .initial = .ok start :=
    ⟨_, rfl⟩
  have hopen : (Editor.ofConfig .default idleCompiler .initial).map (fun start =>
      (Session.run ⟨start, []⟩ dimmedRun).editor.shelf.documents.isEmpty) = .ok false := by
    decide +kernel
  rw [hstart] at hopen
  obtain ⟨⟨-, -, hisOpen, -, -, -, -, -, -⟩, hcommand⟩ := shelves_and_commands_agree closingSteps
    hdistinct .default idleCompiler .initial start hstart dimmedRun
  obtain ⟨-, -, -, hobeyed⟩ := hcommand .empty .toggleOverlay nofun
  obtain ⟨id, order, hactive, -, hsame, houtcome, -⟩ :=
    hobeyed (List.isEmpty_eq_false_iff.mp (Except.ok.inj hopen))
  refine ⟨hdistinct, start, hstart, ⟨by decide, by decide, (hisOpen ⟨0⟩).mp (by decide), ?_⟩,
    id, order, hactive, hsame, houtcome⟩
  exact fun hleft => absurd ((hisOpen ⟨1⟩).mpr hleft) (by decide)

end Dimming.Proofs.ActiveDocument
