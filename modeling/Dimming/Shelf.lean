import Dimming.Document

/-!
# Shelves

A shelf holds the open documents, the order in which they were added, and the active one. The three are
kept apart: documents are found by their identity, the order lists identities alone. A document becomes
active when it is added; when the active one is closed, the one added last takes its place.
-/

set_option autoImplicit false

namespace Dimming

namespace Document

/-- Putting a document in place of the one with its identity keeps the identities. -/
theorem ids_replaced (documents : List Document) (document : Document) :
    (documents.map fun other => if other.id = document.id then document else other).map (·.id) =
      documents.map (·.id) := by
  rw [List.map_map]
  apply List.map_congr_left
  intro other _
  rw [Function.comp_apply]
  split
  · next hother => exact hother.symm
  · rfl

/-- The identities that are left when the documents of one are taken out. -/
theorem mem_ids_filter {documents : List Document} {id gone : DocumentId} :
    id ∈ (documents.filter (fun other => decide (other.id ≠ gone))).map (·.id) ↔
      id ∈ documents.map (·.id) ∧ id ≠ gone := by
  simp only [List.mem_map, List.mem_filter, decide_eq_true_eq]
  constructor
  · rintro ⟨document, ⟨hmem, hne⟩, rfl⟩
    exact ⟨⟨document, hmem, rfl⟩, hne⟩
  · rintro ⟨⟨document, hmem, rfl⟩, hne⟩
    exact ⟨document, ⟨hmem, hne⟩, rfl⟩

end Document

/-- The open documents, their order and the active one. -/
structure Shelf where
  /-- The documents, one for each identity. -/
  documents : List Document
  /-- The identities of the documents in the order in which these were added. -/
  order : List DocumentId
  active : Option DocumentId
  keyed : (documents.map (·.id)).Nodup
  listed : ∀ id, id ∈ order ↔ id ∈ documents.map (·.id)

namespace Shelf

/-- The shelf without documents. -/
def empty : Shelf := ⟨[], [], none, List.nodup_nil, fun _ => Iff.rfl⟩

/-- A document by its identity. -/
def get? (shelf : Shelf) (id : DocumentId) : Option Document :=
  shelf.documents.find? (fun document => decide (document.id = id))

/-- The number of open documents. -/
def size (shelf : Shelf) : Nat := shelf.documents.length

/-- Adds a document and makes it active. -/
def add (shelf : Shelf) (document : Document) : Shelf where
  documents := shelf.documents.filter (fun other => decide (other.id ≠ document.id)) ++ [document]
  order := shelf.order ++ [document.id]
  active := some document.id
  keyed := by
    rw [List.map_append, List.nodup_append]
    refine ⟨shelf.keyed.sublist (List.filter_sublist.map _), List.nodup_cons.mpr ⟨nofun, .nil⟩, ?_⟩
    intro id hid other hother
    rw [List.map_singleton, List.mem_singleton] at hother
    rw [hother]
    exact (Document.mem_ids_filter.mp hid).2
  listed id := by
    rw [List.map_append, List.mem_append, List.mem_append, Document.mem_ids_filter, shelf.listed id]
    by_cases hid : id = document.id <;> simp [hid]

/-- Puts a document in place of the one with its identity. -/
def replace (shelf : Shelf) (document : Document) : Shelf where
  documents :=
    shelf.documents.map fun other => if other.id = document.id then document else other
  order := shelf.order
  active := shelf.active
  keyed := by
    rw [Document.ids_replaced]
    exact shelf.keyed
  listed id := by
    rw [Document.ids_replaced]
    exact shelf.listed id

/-- The shelf without a document. -/
def without (shelf : Shelf) (id : DocumentId) : Shelf where
  documents := shelf.documents.filter (fun other => decide (other.id ≠ id))
  order := shelf.order.filter (fun other => decide (other ≠ id))
  active :=
    if shelf.active = some id then (shelf.order.filter (fun other => decide (other ≠ id))).getLast?
    else shelf.active
  keyed := shelf.keyed.sublist (List.filter_sublist.map _)
  listed other := by
    rw [Document.mem_ids_filter, List.mem_filter, decide_eq_true_eq, shelf.listed other]

/-- Removes a document. -/
def close (shelf : Shelf) (id : DocumentId) : Option (Document × Shelf) :=
  (shelf.get? id).map fun document => (document, shelf.without id)

/-- Makes a document active; nothing happens when it is not on the shelf. -/
def activate (shelf : Shelf) (id : DocumentId) : Shelf :=
  if (shelf.get? id).isSome then { shelf with active := some id } else shelf

/-- The document of a path. -/
def findByPath (shelf : Shelf) (path : String) : Option DocumentId :=
  (shelf.documents.find? fun document =>
    match document.buffer.path with
    | some other => Path.same other path
    | none => false).map (·.id)

end Shelf

end Dimming
