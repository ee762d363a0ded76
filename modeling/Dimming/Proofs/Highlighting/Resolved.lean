import Dimming.Proofs.Highlighting.LastMark
import Mathlib.Data.List.Perm.Basic

/-!
# Which rule a span comes from

Rules of all languages stand in one list, and some of their features are switched off. What is shown is
told by three facts: spans come in the order of their ranges, a range is there when it is not empty and
some rule that counts captures it, and the last such rule in the list gives it its style and its feature.
These leave no choice, so it does not matter in which order, or how often, a rule captures its ranges.
-/

set_option autoImplicit false

namespace Dimming

namespace Span

variable {spans others : List Span}

/-- Sorted spans are different from each other. -/
theorem Sorted.nodup (h : Sorted spans) : spans.Nodup := by
  apply List.Pairwise.imp _ h
  rintro a b hbefore rfl
  exact range_ne_of_before hbefore rfl

/-- Sorted spans with the same members are the same. -/
theorem Sorted.ext (h : Sorted spans) (hothers : Sorted others)
    (hmem : ∀ span, span ∈ spans ↔ span ∈ others) : spans = others := by
  refine List.Perm.eq_of_pairwise ?_ h hothers ?_
  · intro a b _ _ hab hba
    exact absurd rfl (range_ne_of_before (before_trans hab hba))
  · exact (List.perm_ext_iff_of_nodup h.nodup hothers.nodup).mpr hmem

end Span

namespace Highlight

/-- A rule counts for a language, as its feature is enabled, and it captures a range. -/
def Captures (state : Highlight) (language : Language) (ranges : Rule → List (Nat × Nat))
    (range : Nat × Nat) (rule : Rule) : Prop :=
  rule.language = language ∧ rule.feature ∈ state.effective ∧ range ∈ ranges rule

section Winner

variable {state : Highlight} {language : Language} {ranges others : Rule → List (Nat × Nat)}
  {range : Nat × Nat} {rule : Rule} {span : Span}

/-- The last active rule that marks a range is the last one of all rules that captures it. -/
theorem lastMarking_active_eq_some_iff :
    lastMarking (state.active language) ranges range = some rule ↔
      range.1 < range.2 ∧ ∃ before later, state.rules.value.rules = before ++ rule :: later ∧
        state.Captures language ranges range rule ∧
        ∀ other ∈ later, ¬ state.Captures language ranges range other := by
  unfold lastMarking active
  split
  · next hlt =>
    rw [← List.filter_reverse, List.find?_filter, List.find?_eq_some_iff_append]
    simp only [isEnabled, Bool.and_eq_true, decide_eq_true_eq, Bool.not_eq_true',
      decide_eq_false_iff_not, and_assoc]
    -- what stands in front of the rule in the reversed list comes after it in the list
    constructor
    · rintro ⟨hlanguage, hfeature, hrange, later, before, hsplit, hlater⟩
      refine ⟨hlt, before.reverse, later.reverse, ?_, ⟨hlanguage, hfeature, hrange⟩, ?_⟩
      · rw [← List.reverse_reverse state.rules.value.rules, hsplit]
        simp
      · intro other hother
        exact hlater other (List.mem_reverse.mp hother)
    · rintro ⟨-, before, later, hsplit, ⟨hlanguage, hfeature, hrange⟩, hlater⟩
      refine ⟨hlanguage, hfeature, hrange, later.reverse, before.reverse, ?_, ?_⟩
      · rw [hsplit]
        simp
      · intro other hother
        exact hlater other (List.mem_reverse.mp hother)
  · next hempty => simp [hempty]

/-- A span is there exactly when the last rule that marks its range gives it its style and its feature. -/
theorem mem_spansOf_iff :
    span ∈ state.spansOf language ranges ↔
      ∃ rule, lastMarking (state.active language) ranges span.range = some rule ∧
        span.style = rule.style ∧ span.feature = rule.feature := by
  have hmem : span ∈ state.spansOf language ranges ↔ _ :=
    mem_markAll_iff List.Pairwise.nil (state.active language) span
  rw [hmem]
  cases lastMarking (state.active language) ranges span.range with
  | none => simp
  | some rule => simp

/-- A range that is captured at all is captured by some rule last. -/
theorem isSome_lastMarking_active :
    (lastMarking (state.active language) ranges range).isSome = true ↔
      range.1 < range.2 ∧ ∃ rule ∈ state.rules.value.rules,
        state.Captures language ranges range rule := by
  unfold lastMarking
  split
  · next hlt => simp [active, isEnabled, Captures, hlt, and_assoc]
  · next hempty => simp [hempty]

/-- Which rule captures a range last depends on the sets of captured ranges only. -/
theorem lastMarking_active_congr
    (h : ∀ rule range, range.1 < range.2 → (range ∈ ranges rule ↔ range ∈ others rule)) :
    lastMarking (state.active language) ranges range =
      lastMarking (state.active language) others range := by
  unfold lastMarking
  split
  · next hlt =>
    congr 1
    funext rule
    exact decide_eq_decide.mpr (h rule range hlt)
  · rfl

end Winner

end Highlight

end Dimming

namespace Dimming.Proofs.SpanResolution

open Highlight

/-- Which spans are shown. Take any live rules, of any languages and features and with repetitions, any
enabled features, and any ranges that the rules capture, in any order and with repetitions.
Spans come strictly in the order of their starts and then of their stops. A range is shown exactly if it is
not empty and some rule of the language captures it whose feature is enabled. Its style and its feature are
those of a rule that captures it and comes after all others that do. Only what is captured matters: if
rules capture the same ranges that are not empty, in another order or another number of times, then the
very same spans are shown. -/
theorem spans_resolved (state : Highlight) (language : Language)
    (ranges : Rule → List (Nat × Nat)) :
    let spans := state.spansOf language ranges
    spans.Pairwise (fun a b => a.start < b.start ∨ a.start = b.start ∧ a.stop < b.stop) ∧
    (∀ range, range ∈ spans.map Span.range ↔
      range.1 < range.2 ∧ ∃ rule ∈ state.rules.value.rules,
        state.Captures language ranges range rule) ∧
    (∀ span ∈ spans, ∃ before rule later, state.rules.value.rules = before ++ rule :: later ∧
      state.Captures language ranges span.range rule ∧
      (∀ other ∈ later, ¬ state.Captures language ranges span.range other) ∧
      span.style = rule.style ∧ span.feature = rule.feature) ∧
    ∀ others : Rule → List (Nat × Nat),
      (∀ rule range, range.1 < range.2 → (range ∈ ranges rule ↔ range ∈ others rule)) →
      state.spansOf language others = spans := by
  intro spans
  refine ⟨?_, ?_, ?_, ?_⟩
  · exact List.Pairwise.imp Span.before_iff.mp (sorted_spansOf state language ranges)
  · intro range
    rw [← isSome_lastMarking_active, List.mem_map, Option.isSome_iff_exists]
    constructor
    · rintro ⟨span, hspan, rfl⟩
      obtain ⟨rule, hlast, -⟩ := mem_spansOf_iff.mp hspan
      exact ⟨rule, hlast⟩
    · rintro ⟨rule, hlast⟩
      let span : Span := ⟨range.1, range.2, rule.style, rule.feature⟩
      exact ⟨span, mem_spansOf_iff.mpr ⟨rule, hlast, rfl, rfl⟩, rfl⟩
  · intro span hspan
    obtain ⟨rule, hlast, hstyle, hfeature⟩ := mem_spansOf_iff.mp hspan
    obtain ⟨-, before, later, hsplit, hrule, hlater⟩ := lastMarking_active_eq_some_iff.mp hlast
    exact ⟨before, rule, later, hsplit, hrule, hlater, hstyle, hfeature⟩
  · intro others hsame
    apply Span.Sorted.ext (sorted_spansOf state language others) (sorted_spansOf state language ranges)
    intro span
    rw [mem_spansOf_iff, mem_spansOf_iff, lastMarking_active_congr hsame]

/-- In a tree a rule captures what its query finds there. -/
example (state : Highlight) (language : Language) (tree : Tree) (text : List Char) :
    state.spansIn language tree text = state.spansOf language (fun rule => rule.ranges tree text) :=
  rfl

end Dimming.Proofs.SpanResolution
