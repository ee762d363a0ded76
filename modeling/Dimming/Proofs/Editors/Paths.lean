import Dimming.Proofs.Editors.Announced
import Dimming.Proofs.Editors.Bodies

/-!
# One document for each path

A file that is open already is not opened again, and an open document keeps its path for as long as it is
open. So no two open documents are of one path, and a document can be found by its path in whatever order
the shelf is searched. Opening a file that is open makes its document active, and that is all.
-/

set_option autoImplicit false

namespace Dimming

open Proofs.EditorHistory

/-- Two paths are the same exactly when their steps are. -/
theorem Path.same_iff {a b : String} : Path.same a b = true ↔ Path.steps a = Path.steps b :=
  decide_eq_true_iff

/-- A document is of a path when the path of its file has the same steps. -/
def Document.IsOf (document : Document) (path : String) : Prop :=
  ∃ own, document.buffer.path = some own ∧ Path.steps own = Path.steps path

/-- Two documents that are of one path are one document. -/
def Shelf.Separate (shelf : Shelf) : Prop :=
  ∀ path, ∀ a ∈ shelf.documents, ∀ b ∈ shelf.documents, a.IsOf path → b.IsOf path → a = b

namespace Shelf

variable {shelf other : Shelf} {path : String} {document : Document}

/-- What is tested of each document is whether it is of the path. -/
theorem isOf_iff :
    (match document.buffer.path with
      | some own => Path.same own path
      | none => false) = true ↔ document.IsOf path := by
  unfold Document.IsOf
  cases document.buffer.path with
  | none => simp
  | some own => simp [Path.same_iff]

/-- No document is found exactly when none is of the path. -/
theorem findByPath_eq_none :
    shelf.findByPath path = none ↔ ∀ document ∈ shelf.documents, ¬ document.IsOf path := by
  unfold findByPath
  rw [Option.map_eq_none_iff, List.find?_eq_none]
  exact forall₂_congr fun document _ => not_congr isOf_iff

/-- What is found by a path is some document of it. -/
theorem exists_of_findByPath {id : DocumentId} (h : shelf.findByPath path = some id) :
    ∃ document ∈ shelf.documents, document.IsOf path ∧ document.id = id := by
  obtain ⟨document, hfind, hid⟩ := Option.map_eq_some_iff.mp h
  have hfound := List.find?_some hfind
  exact ⟨document, List.mem_of_find?_eq_some hfind, isOf_iff.mp hfound, hid⟩

namespace Separate

/-- There is nothing to tell apart on an empty shelf. -/
theorem empty : Shelf.empty.Separate := by
  intro path a ha
  cases ha

/-- A document of a path is found by it. -/
theorem findByPath_eq (h : shelf.Separate) (hmem : document ∈ shelf.documents)
    (hpath : document.IsOf path) : shelf.findByPath path = some document.id := by
  cases hfind : shelf.findByPath path with
  | none => exact absurd hpath (findByPath_eq_none.mp hfind document hmem)
  | some id =>
    obtain ⟨found, hfound, hof, rfl⟩ := exists_of_findByPath hfind
    rw [h path found hfound document hmem hof hpath]

/-- The order of the documents does not matter. -/
theorem perm (h : shelf.Separate) (hperm : other.documents.Perm shelf.documents) :
    other.Separate := by
  intro path a ha b hb
  exact h path a (hperm.mem_iff.mp ha) b (hperm.mem_iff.mp hb)

/-- The order in which documents lie on a shelf does not matter to what is found. -/
theorem findByPath_perm (h : shelf.Separate) (hperm : other.documents.Perm shelf.documents)
    (path : String) : other.findByPath path = shelf.findByPath path := by
  cases hfind : shelf.findByPath path with
  | none =>
    rw [findByPath_eq_none] at hfind ⊢
    intro document hmem
    exact hfind document (hperm.mem_iff.mp hmem)
  | some id =>
    obtain ⟨document, hmem, hof, rfl⟩ := exists_of_findByPath hfind
    exact (h.perm hperm).findByPath_eq (hperm.mem_iff.mpr hmem) hof

end Separate

end Shelf

namespace Proofs.EditorHistory

/-- Where a document after an act comes from: it was open before, under the same path, or it is new, and if
it has a path then no document was of it. -/
def HasOrigin (before : Editor) (body : DocumentBody) : Prop :=
  (∃ former ∈ before.shelf.documents, former.id = body.id ∧
    former.buffer.path = body.buffer.path) ∨
  body.id = before.freshId ∧
    ∀ path, body.buffer.path = some path → before.shelf.findByPath path = none

namespace HasOrigin

variable {before : Editor}

/-- An act that changes neither the identity nor the path leaves the origin. -/
theorem of_same_path {body after : DocumentBody} (h : HasOrigin before body)
    (hid : after.id = body.id) (hpath : after.buffer.path = body.buffer.path) :
    HasOrigin before after := by
  unfold HasOrigin
  rw [hid, hpath]
  exact h

/-- Every document comes from itself. -/
theorem allBodies (before : Editor) : AllBodies (HasOrigin before) before :=
  fun document hmem => Or.inl ⟨document, hmem, rfl, rfl⟩

section Acts

variable [ParseEngine]

/-- An edit leaves the origin of a document as it is. -/
theorem edited {document : Document} (h : HasOrigin before document.body)
    {outcome : Document.Outcome Unit} (hedited : document.Edited outcome) :
    HasOrigin before outcome.2.body :=
  h.of_same_path hedited.id_eq hedited.path_eq

/-- A document that is added is new, and was not open under its path. -/
theorem addDocument {buffer : Buffer} (name : String) (language : Option Language)
    (hfree : ∀ path, buffer.path = some path → before.shelf.findByPath path = none) :
    AllBodies (HasOrigin before)
      (before.addDocument (Document.ofBuffer before.freshId buffer name language)).2 :=
  (allBodies before).opened language (Or.inr ⟨rfl, hfree⟩)
    (fun _ _ _ _ _ _ => Or.inr ⟨rfl, hfree⟩)

/-- An opened file was open before or comes as a new document. -/
theorem openFile (before : Editor) (disk : Disk) (path : String) :
    AllBodies (HasOrigin before) (before.openFile disk path).2 := by
  unfold Editor.openFile
  split
  · intro document hmem
    rw [Shelf.documents_activate] at hmem
    exact allBodies before document hmem
  · next hfind =>
    unfold Document.ofFile Buffer.ofFile
    cases disk.read path with
    | error cause => exact allBodies before
    | ok text =>
      apply addDocument
      intro other hother
      obtain rfl := Option.some.inj hother
      exact hfind

/-- After every act all documents have an origin in the editor before. -/
theorem perform (before : Editor) (act : Act) : AllBodies (HasOrigin before) (act.perform before) := by
  have h := allBodies before
  cases act with
  | openFile disk path => exact openFile before disk path
  | openText text language => exact addDocument _ language nofun
  | close id => exact h.close id
  | give id order => exact h.give id order
  | command registry order => exact h.command registry order
  | insert id index text =>
    exact h.onDocument id _
      (fun document hdocument => hdocument.edited (document.edited_insert index text))
  | delete id start stop =>
    exact h.onDocument id _
      (fun document hdocument => hdocument.edited (document.edited_delete start stop))

end Acts

/-- Documents that all have an origin in an editor of separate documents are separate. -/
theorem separate {after : Editor} (hbefore : before.shelf.Separate)
    (h : AllBodies (HasOrigin before) after) : after.shelf.Separate := by
  -- a new document of a path cannot meet an older one of the same path
  have hnew : ∀ path (a b : Document), a.IsOf path → b.IsOf path →
      (∃ former ∈ before.shelf.documents, former.id = a.id ∧
        former.buffer.path = a.buffer.path) →
      ¬ ∀ own, b.buffer.path = some own → before.shelf.findByPath own = none := by
    rintro path a b ⟨own, hown, hsteps⟩ ⟨other, hother, hsteps'⟩ ⟨former, hformer, -, hpath⟩ hfree
    exact Shelf.findByPath_eq_none.mp (hfree other hother) former hformer
      ⟨own, hpath.trans hown, hsteps.trans hsteps'.symm⟩
  intro path a ha b hb haof hbof
  apply List.inj_on_of_nodup_map after.shelf.keyed ha hb
  rcases h a ha with hold | ⟨hid, hfree⟩
  · rcases h b hb with hold' | ⟨-, hfree⟩
    · obtain ⟨former, hformer, hid, hpath⟩ := hold
      obtain ⟨former', hformer', hid', hpath'⟩ := hold'
      have hsame : former = former' := by
        apply hbefore path former hformer former' hformer'
        · obtain ⟨own, hown, hsteps⟩ := haof
          exact ⟨own, hpath.trans hown, hsteps⟩
        · obtain ⟨own, hown, hsteps⟩ := hbof
          exact ⟨own, hpath'.trans hown, hsteps⟩
      exact hid.symm.trans ((congrArg Document.id hsame).trans hid')
    · exact absurd hfree (hnew path a b haof hbof hold)
  · rcases h b hb with hold' | ⟨hid', -⟩
    · exact absurd hfree (hnew path b a hbof haof hold')
    · exact hid.trans hid'.symm

end HasOrigin

/-- Documents stay separate in every run. -/
theorem separate_run [ParseEngine] {session : Session} (h : session.editor.shelf.Separate)
    (acts : List Act) : (session.run acts).editor.shelf.Separate := by
  induction acts generalizing session with
  | nil => exact h
  | cons act acts ih => exact ih (HasOrigin.separate h (HasOrigin.perform session.editor act))

end Proofs.EditorHistory

end Dimming

namespace Dimming.Proofs.OpenPaths

open EditorHistory

/-- One document for each path. After any acts on an editor of any settings, two open documents of one path
are the same document. Opening a file under a path that some open document is of answers with the
identity of this document and makes it active; nothing else changes, and nothing is read from the disk.
None of this depends on the order in which the shelf holds its documents. -/
theorem one_document_for_each_path [ParseEngine] (config : Config) (compiler : Compiler)
    (supply : Supply) (start : Editor) (h : Editor.ofConfig config compiler supply = .ok start)
    (acts : List Act) :
    let editor := (Session.run ⟨start, []⟩ acts).editor
    (∀ a ∈ editor.shelf.documents, ∀ b ∈ editor.shelf.documents, ∀ path other,
      a.buffer.path = some path → b.buffer.path = some other → Path.same path other = true →
      a = b) ∧
    ∀ shelf : Shelf, shelf.documents.Perm editor.shelf.documents →
      (∀ path, shelf.findByPath path = editor.shelf.findByPath path) ∧
      ∀ document ∈ editor.shelf.documents, ∀ own path, document.buffer.path = some own →
        Path.same own path = true → ∀ disk : Disk,
        ({ editor with shelf } : Editor).openFile disk path =
          (.ok document.id,
            { editor with shelf := { shelf with active := some document.id } }) := by
  intro editor
  obtain ⟨-, -, hempty, -⟩ := settled_of_ofConfig h
  have hstart : start.shelf.Separate := hempty ▸ .empty
  have hseparate : editor.shelf.Separate := separate_run hstart acts
  refine ⟨?_, ?_⟩
  · intro a ha b hb path other hpath hother hsame
    exact hseparate other a ha b hb ⟨path, hpath, Path.same_iff.mp hsame⟩ ⟨other, hother, rfl⟩
  · intro shelf hperm
    refine ⟨hseparate.findByPath_perm hperm, ?_⟩
    intro document hmem own path hown hsame disk
    have hlies : document ∈ shelf.documents := hperm.mem_iff.mpr hmem
    have hfind : shelf.findByPath path = some document.id :=
      (hseparate.perm hperm).findByPath_eq hlies ⟨own, hown, Path.same_iff.mp hsame⟩
    have hget : shelf.get? document.id = some document := Shelf.get?_of_mem hlies
    simp [Editor.openFile, hfind, Shelf.activate, hget]

/-- A file is opened and edited, and another document is opened after it. -/
def leftRun : List Act :=
  [.openFile (.ofFiles [("a/b", "hi".toUTF8)]) "a/b", .insert ⟨0⟩ 0 "o", .openText "" none]

/-- The file is opened again, under a path that is spelled in another way, from an empty disk. -/
theorem one_document_for_each_path_respelled :
    ∃ start, Editor.ofConfig .default idleCompiler .initial = .ok start ∧
      let editor := (Session.run ⟨start, []⟩ leftRun).editor
      editor.shelf.documents.map (fun document => (document.id, document.buffer.text)) =
          [(⟨0⟩, "ohi"), (⟨1⟩, "")] ∧
        editor.shelf.active = some ⟨1⟩ ∧
        editor.openFile .empty "a/.//b" =
          (.ok ⟨0⟩, { editor with shelf := { editor.shelf with active := some ⟨0⟩ } }) := by
  refine ⟨_, rfl, ?_⟩
  intro editor
  have htexts : editor.shelf.documents.map (fun document => (document.id, document.buffer.text)) =
      [(⟨0⟩, "ohi"), (⟨1⟩, "")] := by decide +kernel
  have hactive : editor.shelf.active = some ⟨1⟩ := by decide +kernel
  have hpath : (editor.shelf.get? ⟨0⟩).map (·.buffer.path) = some (some "a/b") := by
    decide +kernel
  obtain ⟨document, hget, hown⟩ := Option.map_eq_some_iff.mp hpath
  obtain ⟨hmem, hid⟩ := mem_of_get? hget
  obtain ⟨-, hopen⟩ := one_document_for_each_path .default idleCompiler .initial _ rfl leftRun
  obtain ⟨-, hanswer⟩ := hopen editor.shelf (List.Perm.refl _)
  have hagain := hanswer document hmem "a/b" "a/.//b" hown (by decide) .empty
  rw [hid] at hagain
  exact ⟨htexts, hactive, hagain⟩

end Dimming.Proofs.OpenPaths
