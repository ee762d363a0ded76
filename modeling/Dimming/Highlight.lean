import Dimming.Rules.RuleSet

/-!
# Highlighting

The rules of a language whose features are enabled run in order over a tree. Each rule marks byte
ranges; when two rules mark the same range, the later rule gives it its style. The spans come back
sorted by start and end, one for each range that is not empty.
-/

set_option autoImplicit false

namespace Dimming

/-- A byte range with the style and the feature of the rule that won it. -/
structure Span where
  start : Nat
  stop : Nat
  style : Style
  feature : Feature
  deriving DecidableEq, Repr, Inhabited

namespace Span

/-- The range of one span comes before that of another. -/
def before (a b : Span) : Bool :=
  decide (a.start < b.start) || (decide (a.start = b.start) && decide (a.stop < b.stop))

/-- Puts a span into a sorted list, in place of one with the same range. -/
def insert (span : Span) : List Span → List Span
  | [] => [span]
  | other :: rest =>
    if span.before other then span :: other :: rest
    else if other.before span then other :: insert span rest
    else span :: rest

/-- Marks ranges one after the other; empty ranges are left out. -/
def mark (style : Style) (feature : Feature) (spans : List Span) (ranges : List (Nat × Nat)) :
    List Span :=
  ranges.foldl
    (fun spans range =>
      if range.1 < range.2 then insert ⟨range.1, range.2, style, feature⟩ spans else spans)
    spans

end Span

/-- The live rules and features of a buffer. The enabled features are kept, because changing the
feature list takes effect only when they are computed again. -/
structure Highlight where
  rules : Shared RuleSet
  features : Shared FeatureList
  level : Nat
  effective : List Feature

namespace Highlight

/-- A state whose enabled features are those of its list and level. -/
def start (rules : Shared RuleSet) (features : Shared FeatureList) (level : Nat) : Highlight :=
  ⟨rules, features, level, features.value.effective level⟩

/-- Computes the enabled features again. -/
def recompute (state : Highlight) : Highlight :=
  { state with effective := state.features.value.effective state.level }

/-- Changes the level and computes the enabled features again. -/
def setLevel (state : Highlight) (level : Nat) : Highlight :=
  { state with level }.recompute

/-- A feature is enabled. -/
def isEnabled (state : Highlight) (feature : Feature) : Bool :=
  decide (feature ∈ state.effective)

/-- The rules of a language whose features are enabled, in order. -/
def active (state : Highlight) (language : Language) : List Rule :=
  state.rules.value.rules.filter
    (fun rule => decide (rule.language = language) && state.isEnabled rule.feature)

/-- The spans of a language, when each rule marks the given ranges. -/
def spansOf (state : Highlight) (language : Language) (ranges : Rule → List (Nat × Nat)) :
    List Span :=
  (state.active language).foldl
    (fun spans rule => Span.mark rule.style rule.feature spans (ranges rule)) []

/-- The spans of a tree, when a text is given for what its nodes stand for. -/
def spansIn (state : Highlight) (language : Language) (tree : Tree) (text : List Char) : List Span :=
  state.spansOf language (fun rule => rule.ranges tree text)

/-- The spans of a tree over its own characters. -/
def spans (state : Highlight) (language : Language) (tree : Tree) : List Span :=
  state.spansIn language tree tree.chars

end Highlight

end Dimming
