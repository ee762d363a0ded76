import Dimming.Pattern.Basic
import Mathlib.Tactic.Common

/-!
# What a pattern matches first

Marks behind a pattern say something of the nodes that it may match first. Changes to what is asked of
these nodes leave alone which patterns may be passed over, so that one change after another is one
change.
-/

set_option autoImplicit false

namespace Dimming

namespace Pattern

mutual

/-- Whether a pattern can be skipped does not depend on its nodes. -/
theorem isSkippable_mapFirst (change : NodeSpec → NodeSpec) :
    ∀ pattern : Pattern, isSkippable (mapFirst change pattern) = isSkippable pattern
  | .node spec items => by rw [mapFirst, isSkippable, isSkippable]
  | .group items => by rw [mapFirst, isSkippable, isSkippable, areSkippable_mapHead change items]
  | .choice options => by
    rw [mapFirst, isSkippable, isSkippable, endsSkippable_mapAll change options]
  | .repeated part once => by rw [mapFirst, isSkippable, isSkippable]
  | .optional part => by rw [mapFirst, isSkippable, isSkippable]

/-- Whether items can be skipped does not depend on their nodes. -/
theorem areSkippable_mapHead (change : NodeSpec → NodeSpec) :
    ∀ items : List Pattern, areSkippable (mapHead change items) = areSkippable items
  | [] => by rw [mapHead]
  | first :: rest => by
    rw [mapHead, areSkippable, areSkippable, isSkippable_mapFirst change first]
    cases isSkippable first with
    | true => rw [if_pos rfl, areSkippable_mapHead change rest]
    | false => rw [Bool.false_and, Bool.false_and]

/-- Whether a choice ends in what can be skipped does not depend on its nodes. -/
theorem endsSkippable_mapAll (change : NodeSpec → NodeSpec) :
    ∀ options : List Pattern, endsSkippable (mapAll change options) = endsSkippable options
  | [] => by rw [mapAll]
  | [last] => by
    rw [mapAll, mapAll, endsSkippable, endsSkippable, isSkippable_mapFirst change last]
  | first :: second :: rest => by
    have hrest := endsSkippable_mapAll change (second :: rest)
    rw [mapAll] at hrest ⊢
    rw [mapAll]
    exact hrest

end

mutual

/-- One change after another is one change. -/
theorem mapFirst_mapFirst (first second : NodeSpec → NodeSpec) :
    ∀ pattern : Pattern,
      (pattern.mapFirst first).mapFirst second = pattern.mapFirst (fun spec => second (first spec))
  | .node spec items => by rw [mapFirst, mapFirst, mapFirst]
  | .group items => by rw [mapFirst, mapFirst, mapFirst, mapHead_mapHead first second items]
  | .choice options => by rw [mapFirst, mapFirst, mapFirst, mapAll_mapAll first second options]
  | .repeated part once => by rw [mapFirst, mapFirst, mapFirst, mapFirst_mapFirst first second part]
  | .optional part => by rw [mapFirst, mapFirst, mapFirst, mapFirst_mapFirst first second part]

/-- Changing the first nodes of items twice is changing them once. -/
theorem mapHead_mapHead (first second : NodeSpec → NodeSpec) :
    ∀ items : List Pattern,
      mapHead second (mapHead first items) = mapHead (fun spec => second (first spec)) items
  | [] => by rw [mapHead, mapHead, mapHead]
  | item :: rest => by
    rw [mapHead, mapHead, mapHead, isSkippable_mapFirst, mapFirst_mapFirst first second item]
    cases isSkippable item with
    | true => rw [if_pos rfl, if_pos rfl, if_pos rfl, mapHead_mapHead first second rest]
    | false => rfl

/-- Changing the first nodes of all options twice is changing them once. -/
theorem mapAll_mapAll (first second : NodeSpec → NodeSpec) :
    ∀ options : List Pattern,
      mapAll second (mapAll first options) = mapAll (fun spec => second (first spec)) options
  | [] => by rw [mapAll, mapAll, mapAll]
  | option :: rest => by
    rw [mapAll, mapAll, mapAll, mapFirst_mapFirst first second option,
      mapAll_mapAll first second rest]

end

mutual

/-- A change that changes no node changes no pattern. -/
theorem mapFirst_id : ∀ pattern : Pattern, pattern.mapFirst (fun spec => spec) = pattern
  | .node spec items => by rw [mapFirst]
  | .group items => by rw [mapFirst, mapHead_id items]
  | .choice options => by rw [mapFirst, mapAll_id options]
  | .repeated part once => by rw [mapFirst, mapFirst_id part]
  | .optional part => by rw [mapFirst, mapFirst_id part]

/-- A change that changes no node changes no items. -/
theorem mapHead_id : ∀ items : List Pattern, mapHead (fun spec => spec) items = items
  | [] => by rw [mapHead]
  | first :: rest => by
    rw [mapHead, mapFirst_id first, mapHead_id rest]
    split <;> rfl

/-- A change that changes no node changes no options. -/
theorem mapAll_id : ∀ options : List Pattern, mapAll (fun spec => spec) options = options
  | [] => by rw [mapAll]
  | first :: rest => by rw [mapAll, mapFirst_id first, mapAll_id rest]

end

mutual

/-- What is asked of the nodes that a pattern may match first. -/
def firstSpecs : Pattern → List NodeSpec
  | .node spec _ => [spec]
  | .group items => headSpecs items
  | .choice options => optionSpecs options
  | .repeated part _ => firstSpecs part
  | .optional part => firstSpecs part

/-- The same for a row of patterns. -/
def headSpecs : List Pattern → List NodeSpec
  | [] => []
  | first :: rest => firstSpecs first ++ if isSkippable first then headSpecs rest else []

/-- The same for options to choose from. -/
def optionSpecs : List Pattern → List NodeSpec
  | [] => []
  | first :: rest => firstSpecs first ++ optionSpecs rest

end

/-- Each node that the pattern may match first can be given one more name. -/
def HasRoom (pattern : Pattern) : Prop :=
  ∀ spec ∈ pattern.firstSpecs, spec.captures.length < NodeSpec.captureLimit

/-- A capture and a field may be given in either order. -/
theorem mapFirst_field_addCapture (pattern : Pattern) (capture : Nat) (field : String) :
    (pattern.mapFirst (NodeSpec.addCapture capture)).mapFirst
        (fun spec => { spec with field := some field })
      = (pattern.mapFirst (fun spec => { spec with field := some field })).mapFirst
        (NodeSpec.addCapture capture) := by
  rw [mapFirst_mapFirst, mapFirst_mapFirst]
  congr 1
  funext spec
  unfold NodeSpec.addCapture
  dsimp only
  split <;> rfl

end Pattern

end Dimming
