import Dimming.Grammar.OfLanguage
import Mathlib.Tactic.Common

/-!
# The kinds that a grammar knows

The vocabulary of a grammar is collected by one fold over its forms and its extras. Every step of the
fold keeps the kinds that are there, and more kinds before a step are more kinds after it. So a kind that
one form adds to an empty vocabulary belongs to the vocabulary of the whole grammar.
-/

set_option autoImplicit false

namespace Dimming

namespace Vocabulary

/-- A step that collects names. -/
structure Collects (step : Vocabulary → Vocabulary) : Prop where
  keeps : ∀ vocabulary, vocabulary.kinds ⊆ (step vocabulary).kinds
  grows : ∀ {fewer more : Vocabulary}, fewer.kinds ⊆ more.kinds →
    (step fewer).kinds ⊆ (step more).kinds

/-- A step that changes nothing collects names. -/
theorem collects_id : Collects id := ⟨fun _ => List.Subset.refl _, fun h => h⟩

/-- Two steps that collect names do so one after the other. -/
theorem Collects.comp {first second : Vocabulary → Vocabulary} (hsecond : Collects second)
    (hfirst : Collects first) : Collects (second ∘ first) where
  keeps vocabulary := List.Subset.trans (hfirst.keeps vocabulary) (hsecond.keeps _)
  grows h := hsecond.grows (hfirst.grows h)

/-- A choice between two steps that collect names is one. -/
theorem Collects.ite {first second : Vocabulary → Vocabulary} (hfirst : Collects first)
    (hsecond : Collects second) (condition : Bool) :
    Collects fun vocabulary => if condition then first vocabulary else second vocabulary := by
  cases condition with
  | true => exact hfirst
  | false => exact hsecond

/-- A kind that is added is there, besides those that were there. -/
theorem mem_kinds_addKind {vocabulary : Vocabulary} {kind other : String} :
    other ∈ (vocabulary.addKind kind).kinds ↔ other = kind ∨ other ∈ vocabulary.kinds := by
  unfold addKind
  split
  · next h =>
    rw [List.contains_iff_mem] at h
    constructor
    · exact Or.inr
    · rintro (rfl | hother)
      · exact h
      · exact hother
  · exact List.mem_cons

/-- Adding a kind collects names. -/
theorem collects_addKind (kind : String) : Collects (addKind · kind) where
  keeps _ _ hother := mem_kinds_addKind.mpr (Or.inr hother)
  grows h _ hother := mem_kinds_addKind.mpr ((mem_kinds_addKind.mp hother).imp_right (h ·))

/-- A step that leaves the kinds alone. -/
theorem collects_of_kinds_eq {step : Vocabulary → Vocabulary}
    (h : ∀ vocabulary, (step vocabulary).kinds = vocabulary.kinds) : Collects step where
  keeps vocabulary := by rw [h]; exact List.Subset.refl _
  grows hsub := by rw [h, h]; exact hsub

/-- Adding a token collects names. -/
theorem collects_addToken (spelling : String) : Collects (addToken · spelling) := by
  refine collects_of_kinds_eq fun vocabulary => ?_
  unfold addToken
  split <;> rfl

/-- Adding a field collects names. -/
theorem collects_addField (field : String) : Collects (addField · field) := by
  refine collects_of_kinds_eq fun vocabulary => ?_
  unfold addField
  split <;> rfl

section Fold

variable {α : Type} {step : Vocabulary → α → Vocabulary}

/-- Going through items collects names, if each of them does. -/
theorem collects_foldl (h : ∀ item, Collects (step · item)) (items : List α) :
    Collects (fun vocabulary => items.foldl step vocabulary) := by
  induction items with
  | nil => exact collects_id
  | cons item items ih => exact ih.comp (h item)

/-- What one item of a fold adds to an empty vocabulary is there at the end. -/
theorem mem_kinds_foldl (h : ∀ item, Collects (step · item)) {items : List α} {item : α}
    (hitem : item ∈ items) {kind : String} (hkind : kind ∈ (step empty item).kinds)
    (vocabulary : Vocabulary) : kind ∈ (items.foldl step vocabulary).kinds := by
  induction items generalizing vocabulary with
  | nil => cases hitem
  | cons first rest ih =>
    obtain rfl | hitem := List.mem_cons.mp hitem
    · have hhere : kind ∈ (step vocabulary item).kinds := (h item).grows (List.nil_subset _) hkind
      exact (collects_foldl h rest).keeps _ hhere
    · exact ih hitem _

end Fold

end Vocabulary

open Vocabulary

namespace Tree

mutual

/-- Adding the names in a tree collects names. -/
theorem collects_addNames : ∀ tree : Tree, Collects (addNames · tree)
  | .space _ => collects_id
  | .hidden _ => collects_id
  | .leaf label _ =>
    ((collects_addKind label.kind).ite (collects_addToken label.kind) label.named).comp
      (collects_foldl collects_addField label.fields)
  | .branch label parts => (collects_addNamesAll parts).comp (collects_addKind label.kind)

/-- Adding the names in trees collects names. -/
theorem collects_addNamesAll : ∀ trees : List Tree, Collects (addNamesAll · trees)
  | [] => collects_id
  | tree :: rest => (collects_addNamesAll rest).comp (collects_addNames tree)

end

end Tree

namespace Form

mutual

/-- Adding the names in a form collects names. -/
theorem collects_addNames : ∀ form : Form, Collects (addNames · form)
  | .lit text => collects_addToken text
  | .op text _ => collects_addToken text
  | .closing text => collects_addToken text
  | .leaf kind _ => collects_addKind kind
  | .seq parts => collects_addNamesAll parts
  | .alt choices => collects_addNamesAll choices
  | .opt part => collects_addNames part
  | .many part => collects_addNames part
  | .field name part => (collects_addNames part).comp (collects_addField name)
  | .node kind part => (collects_addNames part).comp (collects_addKind kind)
  | .retitle kind named part =>
    (collects_addNamesInside part).comp ((collects_addKind kind).ite (collects_addToken kind) named)
  | .glued part => collects_addNames part
  | .nest part => collects_addNames part
  | .bare part => collects_addNames part
  | .quiet _ => collects_id
  | .ref _ _ => collects_id
  | .ahead _ => collects_id
  | .absent _ => collects_id
  | .check _ => collects_id
  | .mark _ => collects_id
  | .standIn _ => collects_id
  | .astray _ => collects_id
  | .extend _ _ _ => collects_id

/-- Adding the names in forms collects names. -/
theorem collects_addNamesAll : ∀ forms : List Form, Collects (addNamesAll · forms)
  | [] => collects_id
  | form :: rest => (collects_addNamesAll rest).comp (collects_addNames form)

/-- Adding the names inside a form collects names. -/
theorem collects_addNamesInside : ∀ form : Form, Collects (addNamesInside · form)
  | .node _ part => collects_addNames part
  | .alt choices => collects_addNamesInsideAll choices
  | .seq parts => collects_addNamesInsideAll parts
  | .glued part => collects_addNamesInside part
  | .lit _ => collects_id
  | .op _ _ => collects_id
  | .closing _ => collects_id
  | .leaf _ _ => collects_id
  | .opt _ => collects_id
  | .many _ => collects_id
  | .field _ _ => collects_id
  | .retitle _ _ _ => collects_id
  | .nest _ => collects_id
  | .bare _ => collects_id
  | .quiet _ => collects_id
  | .ref _ _ => collects_id
  | .ahead _ => collects_id
  | .absent _ => collects_id
  | .check _ => collects_id
  | .mark _ => collects_id
  | .standIn _ => collects_id
  | .astray _ => collects_id
  | .extend _ _ _ => collects_id

/-- Adding the names inside forms collects names. -/
theorem collects_addNamesInsideAll : ∀ forms : List Form, Collects (addNamesInsideAll · forms)
  | [] => collects_id
  | form :: rest => (collects_addNamesInsideAll rest).comp (collects_addNamesInside form)

end

end Form

namespace Grammar

variable {grammar : Grammar} {kind : String}

/-- Adding the names of a tail collects names. -/
theorem collects_tail (tail : Tail) :
    Collects fun vocabulary =>
      let vocabulary := vocabulary.addKind tail.kind
      let vocabulary := match tail.field with
        | some field => vocabulary.addField field
        | none => vocabulary
      tail.body.addNames vocabulary := by
  cases hfield : tail.field with
  | none => exact tail.body.collects_addNames.comp (collects_addKind tail.kind)
  | some field =>
    exact tail.body.collects_addNames.comp
      ((collects_addField field).comp (collects_addKind tail.kind))

/-- Adding the names in the samples of an extra collects names. -/
theorem collects_samples (extra : Extra) :
    Collects fun vocabulary => extra.samples.foldl
      (fun vocabulary sample => (extra.build sample.toList).addNames vocabulary) vocabulary :=
  collects_foldl (fun sample : String => (extra.build sample.toList).collects_addNames) extra.samples

/-- A kind that the form of a definition can put into a tree is known to the grammar. -/
theorem mem_kinds_of_form {definition : Definition} (h : definition ∈ grammar.definitions)
    (hkind : kind ∈ (definition.form.addNames Vocabulary.empty).kinds) :
    kind ∈ grammar.vocabulary.kinds := by
  have hextras := collects_foldl
    (fun extra => (collects_samples extra).comp (collects_addKind extra.kind)) grammar.extras
  apply hextras.keeps
  refine mem_kinds_foldl (fun definition => ?_) h ?_ _
  · exact (collects_foldl collects_tail definition.tails).comp definition.form.collects_addNames
  · exact (collects_foldl collects_tail definition.tails).keeps _ hkind

/-- A grammar knows the kinds of its extras. -/
theorem mem_kinds_of_extra {extra : Extra} (h : extra ∈ grammar.extras) :
    extra.kind ∈ grammar.vocabulary.kinds := by
  refine mem_kinds_foldl (fun extra => (collects_samples extra).comp (collects_addKind extra.kind)) h ?_ _
  exact (collects_samples extra).keeps _ (mem_kinds_addKind.mpr (Or.inl rfl))

end Grammar

end Dimming
