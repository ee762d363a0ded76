import Dimming.Proofs.Editors.History
import Mathlib.Data.List.Nodup

/-!
# Shelves in order

The order of a shelf lists the identities of its documents. A shelf is tidy when no identity is listed
twice and the active document, if there is one, is listed. Documents of new identities can be added,
documents can be replaced under their identity and closed, and any document can be made active: a tidy
shelf stays tidy.
-/

set_option autoImplicit false

namespace Dimming

open Proofs.EditorHistory

namespace Shelf

variable {shelf after : Shelf} {id : DocumentId} {document : Document}

/-- The order lists the open documents. -/
theorem mem_order : id ∈ shelf.order ↔ ∃ document ∈ shelf.documents, document.id = id :=
  (shelf.listed id).trans List.mem_map

/-- A document is found exactly when its identity is listed. -/
theorem get?_eq_none : shelf.get? id = none ↔ id ∉ shelf.order := by
  rw [mem_order, get?, List.find?_eq_none]
  simp

/-- A document that is found is listed. -/
theorem mem_order_of_get? (h : shelf.get? id = some document) : id ∈ shelf.order := by
  obtain ⟨hmem, hid⟩ := mem_of_get? h
  exact mem_order.mpr ⟨document, hmem, hid⟩

/-- A document is found under its own identity. -/
theorem get?_of_mem (hmem : document ∈ shelf.documents) :
    shelf.get? document.id = some document := by
  cases hget : shelf.get? document.id with
  | none => exact absurd (mem_order.mpr ⟨document, hmem, rfl⟩) (get?_eq_none.mp hget)
  | some other =>
    obtain ⟨hother, hid⟩ := mem_of_get? hget
    rw [List.inj_on_of_nodup_map shelf.keyed hother hmem hid]

/-- A document in its own place changes nothing. -/
theorem replace_self (hmem : document ∈ shelf.documents) : shelf.replace document = shelf := by
  have hdocuments : (shelf.replace document).documents = shelf.documents := by
    refine (List.map_congr_left fun other hother => ?_).trans (List.map_id _)
    split
    · next hid => exact List.inj_on_of_nodup_map shelf.keyed hmem hother hid.symm
    · rfl
  cases shelf
  rw [replace, mk.injEq]
  exact ⟨hdocuments, rfl, rfl⟩

/-- A document is added at the end of the order. -/
@[simp]
theorem order_add : (shelf.add document).order = shelf.order ++ [document.id] := rfl

/-- A document that takes the place of its former self keeps the order. -/
@[simp]
theorem order_replace : (shelf.replace document).order = shelf.order := rfl

/-- Closing takes the documents of an identity from the shelf. If one of them was active, the last one of
those that are left is. -/
theorem close_eq_some (h : shelf.close id = some (document, after)) :
    shelf.get? id = some document ∧
      after.documents = shelf.documents.filter (fun other => decide (other.id ≠ id)) ∧
      after.order = shelf.order.filter (fun other => decide (other ≠ id)) ∧
      after.active = if shelf.active = some id then after.order.getLast? else shelf.active := by
  simp only [close, Option.map_eq_some_iff, Prod.mk.injEq] at h
  obtain ⟨former, hget, rfl, rfl⟩ := h
  exact ⟨hget, rfl, rfl, rfl⟩

/-- Activating a document that is not there does nothing. -/
theorem active_activate :
    (shelf.activate id).active = if id ∈ shelf.order then some id else shelf.active := by
  unfold activate
  by_cases h : id ∈ shelf.order
  · have hsome : (shelf.get? id).isSome = true := by
      rw [Option.isSome_iff_ne_none]
      exact fun hnone => get?_eq_none.mp hnone h
    rw [if_pos hsome, if_pos h]
  · rw [get?_eq_none.mpr h, if_neg h]
    rfl

/-- Making a document active changes no document. -/
@[simp]
theorem documents_activate : (shelf.activate id).documents = shelf.documents := by
  unfold activate
  split <;> rfl

/-- Making a document active keeps the order. -/
@[simp]
theorem order_activate : (shelf.activate id).order = shelf.order := by
  unfold activate
  split <;> rfl

/-- No identity is listed twice, and the active one is listed. -/
structure Tidy (shelf : Shelf) : Prop where
  nodup : shelf.order.Nodup
  active_mem : ∀ id, shelf.active = some id → id ∈ shelf.order

namespace Tidy

/-- An empty shelf is tidy. -/
theorem empty : Shelf.empty.Tidy := ⟨List.nodup_nil, nofun⟩

/-- A shelf stays tidy when a document of a new identity is added. -/
theorem add (h : shelf.Tidy) (hfresh : document.id ∉ shelf.order) : (shelf.add document).Tidy where
  nodup := by
    rw [order_add, List.nodup_append]
    refine ⟨h.nodup, List.nodup_singleton _, ?_⟩
    rintro id hmem other hother rfl
    rw [List.mem_singleton.mp hother] at hmem
    exact hfresh hmem
  active_mem := by
    intro id hactive
    obtain rfl := Option.some.inj hactive
    rw [order_add]
    exact List.mem_append_right _ (List.mem_singleton_self _)

/-- A shelf stays tidy when a document takes the place of its former self. -/
theorem replace (h : shelf.Tidy) : (shelf.replace document).Tidy where
  nodup := by
    rw [order_replace]
    exact h.nodup
  active_mem := by
    rw [order_replace]
    exact h.active_mem

/-- A shelf stays tidy when a document is closed. -/
theorem close (h : shelf.Tidy) (hclose : shelf.close id = some (document, after)) : after.Tidy := by
  obtain ⟨-, -, horder, hactive⟩ := close_eq_some hclose
  refine ⟨horder ▸ h.nodup.filter _, ?_⟩
  intro other hother
  rw [hother] at hactive
  split at hactive
  · exact List.mem_of_getLast? hactive.symm
  · next hne =>
    have hmem := h.active_mem other hactive.symm
    have hdiffers : other ≠ id := by
      rintro rfl
      exact hne hactive.symm
    rw [horder, List.mem_filter]
    exact ⟨hmem, decide_eq_true hdiffers⟩

end Tidy

end Shelf

end Dimming
