import Dimming.Proofs.Editors.Announced

/-!
# What an observer knows

An observer who knows the settings and hears every event can keep a list of the open documents, with the
position of the switch and the level of each. It needs no look at the editor: after every run its list
has the documents of the shelf, in their order, and what it knows of each of them is true.
-/

set_option autoImplicit false

namespace Dimming

open Proofs.EditorHistory

/-- What is known of an open document. -/
structure Standing where
  id : DocumentId
  on : Bool
  level : Nat
  deriving DecidableEq, Repr

namespace Standing

/-- What is known of a document after an event. -/
def hear (standing : Standing) : Event → Standing
  | .overlayToggled id on => if id = standing.id then { standing with on } else standing
  | .levelChanged id level => if id = standing.id then { standing with level } else standing
  | _ => standing

/-- What is known is true of a document; of a level only where there is highlighting. -/
def Tells (standing : Standing) (document : Document) : Prop :=
  standing.on = Switch.isOn document ∧
    ∀ level, document.level? = some level → standing.level = level

end Standing

/-- What is known of the open documents after an event. -/
def hear (config : Config) (known : List Standing) : Event → List Standing
  | .documentOpened id => known ++ [⟨id, config.enableByDefault, config.level⟩]
  | .documentClosed id => known.filter (fun standing => decide (standing.id ≠ id))
  | event => known.map (·.hear event)

/-- What is known of the open documents to someone who has heard some events, oldest first, and nothing
else but the settings. -/
def observe (config : Config) (events : List Event) : List Standing :=
  events.foldl (hear config) []

/-- The documents that are known are those of a shelf, in their order, and what is known is true. -/
structure Mirrors (known : List Standing) (shelf : Shelf) : Prop where
  ids : known.map (·.id) = shelf.order
  tells : ∀ standing ∈ known, ∀ document ∈ shelf.documents, document.id = standing.id →
    standing.Tells document

/-! ## Hearing the events of one act -/

/-- Requests for a repaint tell nothing of a standing. -/
theorem hear_requests (config : Config) (known : List Standing) (id : DocumentId) (count : Nat) :
    (Event.requests id count).foldl (hear config) known = known := by
  induction count with
  | zero => rfl
  | succ count ih =>
    have hone : hear config known (.repaintRequested id) = known := by
      simp [hear, Standing.hear]
    rw [Event.requests, List.replicate_succ, List.foldl_cons, hone]
    exact ih

/-- News of a document are heard by what is known of that document alone. -/
theorem News.hear_eq {former changed : Document} {news : List Event} (h : News former changed news)
    (config : Config) (known : List Standing) :
    news.foldl (hear config) known =
      known.map (fun standing => news.foldl Standing.hear standing) := by
  cases h with
  | none => simp
  | toggled => rfl
  | levelChanged => rfl

/-- News do not change whose standing it is. -/
theorem News.id_hear {former changed : Document} {news : List Event} (h : News former changed news)
    (standing : Standing) : (news.foldl Standing.hear standing).id = standing.id := by
  cases h with
  | none => rfl
  | toggled on => simp only [List.foldl_cons, List.foldl_nil, Standing.hear]; split <;> rfl
  | levelChanged level => simp only [List.foldl_cons, List.foldl_nil, Standing.hear]; split <;> rfl

/-- News of one document tell nothing of another. -/
theorem News.hear_of_ne {former changed : Document} {news : List Event}
    (h : News former changed news) {standing : Standing} (hne : former.id ≠ standing.id) :
    news.foldl Standing.hear standing = standing := by
  cases h with
  | none => rfl
  | toggled on => simp [Standing.hear, hne]
  | levelChanged level => simp [Standing.hear, hne]

/-- What was true of a document before is, after the news, true of the document that it became. -/
theorem News.tells_hear {former changed : Document} {news : List Event}
    (h : News former changed news) {standing : Standing} (hid : former.id = standing.id)
    (htells : standing.Tells former) : (news.foldl Standing.hear standing).Tells changed := by
  obtain ⟨hon, hlevel⟩ := htells
  cases h with
  | none hsame hlevel' => exact ⟨hon.trans hsame.symm, hlevel' ▸ hlevel⟩
  | toggled on hsame hlevel' =>
    simp only [List.foldl_cons, List.foldl_nil, Standing.hear, if_pos hid]
    exact ⟨hsame.symm, hlevel' ▸ hlevel⟩
  | levelChanged level hsame hlevel' =>
    simp only [List.foldl_cons, List.foldl_nil, Standing.hear, if_pos hid]
    refine ⟨hon.trans hsame.symm, ?_⟩
    intro other hother
    exact Option.some.inj (hlevel'.symm.trans hother)

namespace Mirrors

variable {known : List Standing} {before after : Editor}

/-- An observer who hears what an act announces knows the shelf after it. -/
theorem of_announces {config : Config} {events : List Event} (h : Mirrors known before.shelf)
    (hsettled : Settled before) (hconfig : before.config = config)
    (hstep : Announces before after events) :
    Mirrors (events.foldl (hear config) known) after.shelf := by
  cases hstep with
  | quiet hdocuments horder _ _ =>
    refine ⟨h.ids.trans horder.symm, ?_⟩
    rw [hdocuments]
    exact h.tells
  | opened document count _ hid _ hon hlevel hshelf _ =>
    have hfresh : ∀ other ∈ before.shelf.order, other ≠ document.id := by
      rintro other hmem rfl
      rw [hid] at hmem
      exact hsettled.freshId_not_mem hmem
    rw [List.foldl_append, hear_requests, hshelf]
    refine ⟨?_, ?_⟩
    · simp [hear, h.ids]
    · intro standing hstanding other hother hsame
      rcases List.mem_append.mp hstanding with hold | hnew
      · have hlisted : standing.id ∈ before.shelf.order := h.ids ▸ List.mem_map_of_mem hold
        rcases mem_add hother with rfl | hother
        · exact absurd hsame.symm (hfresh standing.id hlisted)
        · exact h.tells standing hold other hother hsame
      · obtain rfl := List.mem_singleton.mp hnew
        rcases mem_add hother with rfl | hother
        · refine ⟨by rw [hon, hconfig], ?_⟩
          intro level hsome
          rw [hlevel level hsome, hconfig]
        · have hlisted : other.id ∈ before.shelf.order := Shelf.mem_order.mpr ⟨other, hother, rfl⟩
          exact absurd hsame (hfresh other.id hlisted)
  | @closed id document hclose _ =>
    obtain ⟨-, hdocuments, horder, -⟩ := Shelf.close_eq_some hclose
    refine ⟨?_, ?_⟩
    · rw [horder, ← h.ids, List.filter_map]
      rfl
    · intro standing hstanding other hother
      rw [hdocuments] at hother
      exact h.tells standing (List.mem_filter.mp hstanding).1 other (List.mem_filter.mp hother).1
  | @changed document changed count news hget hid _ hnews hshelf _ =>
    obtain ⟨hmem, -⟩ := mem_of_get? hget
    rw [List.foldl_append, hear_requests, hnews.hear_eq, hshelf]
    refine ⟨?_, ?_⟩
    · rw [Shelf.order_replace, ← h.ids, List.map_map]
      exact List.map_congr_left (fun standing _ => hnews.id_hear standing)
    · intro heard hheard other hother hsame
      obtain ⟨standing, hstanding, rfl⟩ := List.mem_map.mp hheard
      rw [hnews.id_hear] at hsame
      rcases mem_replace hother with rfl | ⟨hother, hne⟩
      · have hformer : document.id = standing.id := hid.symm.trans hsame
        exact hnews.tells_hear hformer (h.tells standing hstanding document hmem hformer)
      · have hformer : document.id ≠ standing.id := by
          rw [← hid, ← hsame]
          exact Ne.symm hne
        rw [hnews.hear_of_ne hformer]
        exact h.tells standing hstanding other hother hsame

end Mirrors

end Dimming

namespace Dimming.Proofs.EditorEvents

open EditorHistory

/-- The events tell the state of an editor. For every editor of some settings and every run, also of acts
that fail, someone who has heard all its events knows each open document once, in the order of the
shelf, with the true position of its switch, and with its true level if it has highlighting. -/
theorem events_tell_documents [ParseEngine] (config : Config) (compiler : Compiler)
    (supply : Supply) (start : Editor) (h : Editor.ofConfig config compiler supply = .ok start)
    (acts : List Act) :
    let editor := (Session.run ⟨start, []⟩ acts).editor
    let known := observe config editor.announced
    known.map (·.id) = editor.shelf.order ∧ editor.shelf.order.Nodup ∧
      ∀ standing ∈ known, ∃ document, editor.shelf.get? standing.id = some document ∧
        standing.on = Switch.isOn document ∧
        ∀ state, document.highlight = some state → standing.level = state.level := by
  intro editor known
  obtain ⟨hsettled, hsilent, hempty, hconfig⟩ := settled_of_ofConfig h
  have hstart : Mirrors (observe config start.announced) start.shelf := by
    rw [hsilent, hempty]
    exact ⟨rfl, nofun⟩
  obtain ⟨hafter, hmirrors⟩ := announced_induction
    (P := fun editor => Mirrors (observe config editor.announced) editor.shelf) hsettled hstart
    (by
      intro before after events hbefore hsame hannounced hstep hmirrors
      rw [hannounced, observe, List.foldl_append]
      exact hmirrors.of_announces hbefore (hsame.trans hconfig) hstep)
    acts
  refine ⟨hmirrors.ids, hafter.tidy.nodup, ?_⟩
  intro standing hstanding
  have hlisted : standing.id ∈ editor.shelf.order := hmirrors.ids ▸ List.mem_map_of_mem hstanding
  obtain ⟨document, hmem, hid⟩ := Shelf.mem_order.mp hlisted
  obtain ⟨hon, hlevel⟩ := hmirrors.tells standing hstanding document hmem hid
  refine ⟨document, hid ▸ Shelf.get?_of_mem hmem, hon, ?_⟩
  intro state hstate
  exact hlevel state.level (by rw [Document.level?, hstate]; rfl)

/-- The events of a run tell that its only document is dimmed and shown at the first level alone. -/
theorem events_tell_documents_dimmed :
    ∃ start, Editor.ofConfig .default idleCompiler .initial = .ok start ∧
      let editor := (Session.run ⟨start, []⟩ dimmedRun).editor
      observe .default editor.announced = [⟨⟨0⟩, true, 1⟩] ∧
        ∃ document, editor.shelf.get? ⟨0⟩ = some document ∧ Switch.isOn document = true ∧
          ∀ state, document.highlight = some state → state.level = 1 := by
  refine ⟨_, rfl, ?_⟩
  intro editor
  have hknown : observe .default editor.announced = [⟨⟨0⟩, true, 1⟩] := by decide +kernel
  refine ⟨hknown, ?_⟩
  obtain ⟨-, -, htells⟩ := events_tell_documents .default idleCompiler .initial _ rfl dimmedRun
  obtain ⟨document, hget, hon, hlevel⟩ := htells ⟨⟨0⟩, true, 1⟩ (hknown ▸ List.mem_singleton_self _)
  exact ⟨document, hget, hon.symm, fun state hstate => (hlevel state hstate).symm⟩

end Dimming.Proofs.EditorEvents
