import Dimming.Proofs.Editors.Announced

/-!
# The lifetime of a document among the events

The events about a document begin with the requests for a repaint that are made while it is set up, at
most two of them; they stand right before the event that tells that it was opened. From then on there are
updates only, until it is told that the document was closed, and after that nothing is heard of it. So a
document is open exactly while, by the events, it lives.
-/

set_option autoImplicit false

namespace Dimming

open Proofs.EditorHistory

/-- An event tells of something that was done to an open document. -/
def Event.isUpdate : Event → Bool
  | .repaintRequested _ => true
  | .overlayToggled _ _ => true
  | .levelChanged _ _ => true
  | _ => false

/-- No event is about a document. -/
def Unheard (id : DocumentId) (events : List Event) : Prop :=
  ∀ event ∈ events, event.subject? ≠ some id

/-- A document was opened and not closed: before the event that tells of its opening stand at most two
requests for a repaint, with nothing in between, and no other event about it; after it, all events about
it are updates. -/
def Lives (id : DocumentId) (events : List Event) : Prop :=
  ∃ before count later, count ≤ 2 ∧
    events = before ++ (Event.requests id count ++ .documentOpened id :: later) ∧
    Unheard id before ∧ ∀ event ∈ later, event.subject? = some id → event.isUpdate = true

/-- A document lived and was closed, and nothing is heard of it after that. -/
def Ended (id : DocumentId) (events : List Event) : Prop :=
  ∃ lived later, events = lived ++ .documentClosed id :: later ∧ Lives id lived ∧ Unheard id later

/-- Nothing is heard of a document in events one after the other if nothing is heard in either. -/
theorem Unheard.append {id : DocumentId} {events more : List Event} (h : Unheard id events)
    (hmore : Unheard id more) : Unheard id (events ++ more) := by
  intro event hevent
  rcases List.mem_append.mp hevent with hevent | hevent
  · exact h event hevent
  · exact hmore event hevent

/-- A document that lives still does after events that only update it. -/
theorem Lives.append {id : DocumentId} {events more : List Event} (h : Lives id events)
    (hmore : ∀ event ∈ more, event.subject? = some id → event.isUpdate = true) :
    Lives id (events ++ more) := by
  obtain ⟨before, count, later, hcount, rfl, hbefore, hlater⟩ := h
  refine ⟨before, count, later ++ more, hcount, by simp, hbefore, ?_⟩
  intro event hevent hsubject
  rcases List.mem_append.mp hevent with hevent | hevent
  · exact hlater event hevent hsubject
  · exact hmore event hevent hsubject

/-- A document that was closed stays so as long as nothing is heard of it. -/
theorem Ended.append {id : DocumentId} {events more : List Event} (h : Ended id events)
    (hmore : Unheard id more) : Ended id (events ++ more) := by
  obtain ⟨lived, later, rfl, hlived, hlater⟩ := h
  exact ⟨lived, later ++ more, by simp, hlived, hlater.append hmore⟩

/-! ## One act -/

/-- What is told of a change only updates the document. -/
theorem News.update {former changed : Document} {news : List Event} (h : News former changed news) :
    ∀ event ∈ news, event.subject? = some former.id ∧ event.isUpdate = true := by
  intro event hevent
  cases h with
  | none => cases hevent
  | toggled on => rw [List.mem_singleton.mp hevent]; exact ⟨rfl, rfl⟩
  | levelChanged level => rw [List.mem_singleton.mp hevent]; exact ⟨rfl, rfl⟩

/-- Requests for a repaint only update the document. -/
theorem Event.update_of_mem_requests {id : DocumentId} {count : Nat} {event : Event}
    (h : event ∈ Event.requests id count) : event.subject? = some id ∧ event.isUpdate = true := by
  rw [List.eq_of_mem_replicate h]
  exact ⟨rfl, rfl⟩

/-- The open documents of an editor are those that live, by what it has announced; of the others nothing
was heard, or they have ended. -/
structure Bracketed (editor : Editor) : Prop where
  lives : ∀ id ∈ editor.shelf.order, Lives id editor.announced
  gone : ∀ id, id ∉ editor.shelf.order →
    Unheard id editor.announced ∨ Ended id editor.announced
  handedOut : ∀ event ∈ editor.announced, ∀ id, event.subject? = some id →
    id.number < editor.nextDocument

namespace Bracketed

variable {before after : Editor}

/-- Events about one document leave the lifetimes of the others as they are. -/
theorem of_events (h : Bracketed before) {id : DocumentId} {events : List Event}
    (hannounced : after.announced = before.announced ++ events)
    (hevents : ∀ event ∈ events, event.subject? = some id)
    (hothers : ∀ other, other ≠ id → (other ∈ after.shelf.order ↔ other ∈ before.shelf.order))
    (hlives : id ∈ after.shelf.order → Lives id after.announced)
    (hgone : id ∉ after.shelf.order → Unheard id after.announced ∨ Ended id after.announced)
    (hid : id.number < after.nextDocument) (hnext : before.nextDocument ≤ after.nextDocument) :
    Bracketed after := by
  have hunheard : ∀ other, other ≠ id → Unheard other events := by
    intro other hne event hevent hsubject
    exact hne (Option.some.inj (hsubject.symm.trans (hevents event hevent)))
  refine ⟨?_, ?_, ?_⟩
  · intro other hother
    by_cases hsame : other = id
    · subst hsame
      exact hlives hother
    · rw [hannounced]
      refine (h.lives other ((hothers other hsame).mp hother)).append ?_
      intro event hevent hsubject
      exact absurd hsubject (hunheard other hsame event hevent)
  · intro other hother
    by_cases hsame : other = id
    · subst hsame
      exact hgone hother
    · have hbefore : other ∉ before.shelf.order := fun hmem =>
        hother ((hothers other hsame).mpr hmem)
      rw [hannounced]
      exact (h.gone other hbefore).imp (·.append (hunheard other hsame))
        (·.append (hunheard other hsame))
  · intro event hevent other hsubject
    rw [hannounced] at hevent
    rcases List.mem_append.mp hevent with hevent | hevent
    · exact Nat.lt_of_lt_of_le (h.handedOut event hevent other hsubject) hnext
    · obtain rfl := Option.some.inj ((hevents event hevent).symm.trans hsubject)
      exact hid

/-- Every act leaves the open documents as those that live. -/
theorem of_announces {events : List Event} (h : Bracketed before) (hsettled : Settled before)
    (hannounced : after.announced = before.announced ++ events)
    (hstep : Announces before after events) : Bracketed after := by
  cases hstep with
  | quiet _ horder _ hnext =>
    rw [List.append_nil] at hannounced
    refine ⟨?_, ?_, ?_⟩
    · rw [horder, hannounced]
      exact h.lives
    · rw [horder, hannounced]
      exact h.gone
    · rw [hannounced, hnext]
      exact h.handedOut
  | opened document count hcount hid _ _ _ hshelf hnext =>
    have hnumber : document.id.number = before.nextDocument := congrArg DocumentId.number hid
    -- identities are handed out once, so no event can have named this one before
    have hnew : Unheard document.id before.announced := by
      intro event hevent hsubject
      have hlt := h.handedOut event hevent document.id hsubject
      omega
    have horder : after.shelf.order = before.shelf.order ++ [document.id] := by
      rw [hshelf, Shelf.order_add]
    have hopen : document.id ∈ after.shelf.order := by simp [horder]
    refine h.of_events hannounced ?_ ?_ ?_ (fun hclosed => absurd hopen hclosed) ?_ ?_
    · intro event hevent
      rcases List.mem_append.mp hevent with hevent | hevent
      · exact (Event.update_of_mem_requests hevent).1
      · rw [List.mem_singleton.mp hevent]
        rfl
    · intro other hne
      simp [horder, hne]
    · intro _
      exact ⟨before.announced, count, [], hcount, hannounced, hnew, nofun⟩
    · omega
    · omega
  | @closed id document hclose hnext =>
    obtain ⟨hget, -, horder, -⟩ := Shelf.close_eq_some hclose
    have hid := Shelf.mem_order_of_get? hget
    have hclosed : id ∉ after.shelf.order := by simp [horder]
    refine h.of_events hannounced ?_ ?_ (fun hopen => absurd hopen hclosed) ?_ ?_
      (Nat.le_of_eq hnext.symm)
    · intro event hevent
      rw [List.mem_singleton.mp hevent]
      rfl
    · intro other hne
      simp [horder, hne]
    · intro _
      exact Or.inr ⟨before.announced, [], hannounced, h.lives id hid, nofun⟩
    · rw [hnext]
      exact hsettled.fresh id hid
  | @changed document changed count news hget _ _ hnews hshelf hnext =>
    have hid := Shelf.mem_order_of_get? hget
    have horder : after.shelf.order = before.shelf.order := by
      rw [hshelf, Shelf.order_replace]
    have hupdates : ∀ event ∈ Event.requests document.id count ++ news,
        event.subject? = some document.id ∧ event.isUpdate = true := by
      intro event hevent
      rcases List.mem_append.mp hevent with hevent | hevent
      · exact Event.update_of_mem_requests hevent
      · exact hnews.update event hevent
    refine h.of_events hannounced (fun event hevent => (hupdates event hevent).1) ?_ ?_ ?_ ?_
      (Nat.le_of_eq hnext.symm)
    · intro other _
      rw [horder]
    · intro _
      rw [hannounced]
      exact (h.lives document.id hid).append (fun event hevent _ => (hupdates event hevent).2)
    · intro hclosed
      rw [horder] at hclosed
      exact absurd hid hclosed
    · rw [hnext]
      exact hsettled.fresh document.id hid

end Bracketed

end Dimming

namespace Dimming.Proofs.EditorEvents

open EditorHistory

/-- The events about a document are bracketed by its lifetime. For every editor of some settings and every
run, an open document lives by the events of the run, and a document that is not open was either never
heard of or it lived and has ended. -/
theorem events_bracketed [ParseEngine] (config : Config) (compiler : Compiler) (supply : Supply)
    (start : Editor) (h : Editor.ofConfig config compiler supply = .ok start) (acts : List Act) :
    let editor := (Session.run ⟨start, []⟩ acts).editor
    ∀ id, (id ∈ editor.shelf.order → Lives id editor.announced) ∧
      (id ∉ editor.shelf.order → Unheard id editor.announced ∨ Ended id editor.announced) := by
  intro editor id
  obtain ⟨hsettled, hsilent, hempty, -⟩ := settled_of_ofConfig h
  have hstart : Bracketed start := by
    refine ⟨?_, ?_, ?_⟩
    · rw [hempty]
      exact nofun
    · rw [hsilent]
      exact fun _ _ => Or.inl nofun
    · rw [hsilent]
      exact nofun
  obtain ⟨-, hbracketed⟩ := announced_induction hsettled hstart
    (fun _ _ _ hbefore _ hannounced hstep hbracketed =>
      hbracketed.of_announces hbefore hannounced hstep)
    acts
  exact ⟨hbracketed.lives id, hbracketed.gone id⟩

/-- A document in JSON is opened and closed, and then another one is opened. -/
def reopenedRun : List Act :=
  [.openText " " (some .json), .close ⟨0⟩, .openText " " (some .json)]

/-- In this run the first document is closed for good, and the second one lives. -/
theorem events_bracketed_reopened :
    ∃ start, Editor.ofConfig .default idleCompiler .initial = .ok start ∧
      let events := (Session.run ⟨start, []⟩ reopenedRun).editor.announced
      Ended ⟨0⟩ events ∧ Lives ⟨1⟩ events := by
  refine ⟨_, rfl, ?_⟩
  intro events
  have hbracketed := events_bracketed .default idleCompiler .initial _ rfl reopenedRun
  have hheard : .documentOpened ⟨0⟩ ∈ events := by decide +kernel
  have hgone := (hbracketed ⟨0⟩).2 (by decide +kernel)
  exact ⟨hgone.resolve_left (fun hunheard => hunheard _ hheard rfl),
    (hbracketed ⟨1⟩).1 (by decide +kernel)⟩

/-- The requests of a document that is being set up are heard before it is told that it was opened. -/
theorem repaint_requested_before_opening :
    ∃ start, Editor.ofConfig .default idleCompiler .initial = .ok start ∧
      let events := (Session.run ⟨start, []⟩ [.openText " " (some .json)]).editor.announced
      ∃ before after, events = before ++ .documentOpened ⟨0⟩ :: after ∧
        ∃ event ∈ before, event.subject? = some ⟨0⟩ := by
  refine ⟨_, rfl, ?_⟩
  intro events
  have hevents : events = [.repaintRequested ⟨0⟩, .documentOpened ⟨0⟩] := by decide +kernel
  exact ⟨[.repaintRequested ⟨0⟩], [], hevents, _, List.mem_singleton_self _, rfl⟩

end Dimming.Proofs.EditorEvents
