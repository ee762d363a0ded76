import Dimming.Proofs.Features.Effective
import Dimming.Proofs.Highlighting.Spans
import Mathlib.Data.List.Induction

/-!
# The last mark wins

Rules run one after the other over spans that are kept in the order of their ranges, and no range is there
twice. So the last rule that marks a range tells the style and the feature of its span, and where no rule
marks a range, what was there before stays. Rules that run behind others, under a feature that no other
rule has, override the spans of the others at the ranges which they mark, and nowhere else.
-/

set_option autoImplicit false

namespace Dimming

namespace Span

/-- The range of a span. -/
def range (span : Span) : Nat × Nat := (span.start, span.stop)

/-- Spans in the order of their ranges, with no range twice. -/
def Sorted (spans : List Span) : Prop := spans.Pairwise (fun a b => a.before b = true)

/-! ## The order of spans -/

/-- Spans are ordered by their starts and then by their ends. -/
theorem before_iff {a b : Span} :
    a.before b = true ↔ a.start < b.start ∨ a.start = b.start ∧ a.stop < b.stop := by
  simp [before]

/-- The order of spans is transitive. -/
theorem before_trans {a b c : Span} (hab : a.before b = true) (hbc : b.before c = true) :
    a.before c = true := by
  rw [before_iff] at hab hbc ⊢
  omega

/-- A span that comes before another one has a different range. -/
theorem range_ne_of_before {a b : Span} (h : a.before b = true) : a.range ≠ b.range := by
  rw [before_iff] at h
  intro heq
  obtain ⟨hstart, hstop⟩ := Prod.mk.inj heq
  omega

/-- Two spans of which neither comes first have the same range. -/
theorem range_eq_of_not_before {a b : Span} (hab : ¬ a.before b = true) (hba : ¬ b.before a = true) :
    a.range = b.range := by
  rw [before_iff] at hab hba
  exact Prod.ext (by simp only [range]; omega) (by simp only [range]; omega)

/-! ## Putting one span in -/

/-- A span that is put in takes the place of the one with its range. -/
theorem mem_insert_iff {span other : Span} {spans : List Span} (h : Sorted spans) :
    other ∈ insert span spans ↔ other = span ∨ other ∈ spans ∧ other.range ≠ span.range := by
  induction spans with
  | nil => simp [insert]
  | cons first rest ih =>
    obtain ⟨hfirst, hrest⟩ := List.pairwise_cons.mp h
    rw [insert]
    split
    · next hbefore =>
      -- everything that is there comes behind the new span
      have hne : ∀ behind ∈ first :: rest, behind.range ≠ span.range := by
        intro behind hbehind
        rcases List.mem_cons.mp hbehind with rfl | hmem
        · exact (range_ne_of_before hbefore).symm
        · exact (range_ne_of_before (before_trans hbefore (hfirst behind hmem))).symm
      rw [List.mem_cons]
      exact or_congr_right ⟨fun hmem => ⟨hmem, hne other hmem⟩, And.left⟩
    · next hnot =>
      split
      · next hbehind =>
        have hne : first.range ≠ span.range := range_ne_of_before hbehind
        rw [List.mem_cons, List.mem_cons, ih hrest]
        constructor
        · rintro (rfl | rfl | ⟨hmem, hother⟩)
          · exact Or.inr ⟨Or.inl rfl, hne⟩
          · exact Or.inl rfl
          · exact Or.inr ⟨Or.inr hmem, hother⟩
        · rintro (rfl | ⟨rfl | hmem, hother⟩)
          · exact Or.inr (Or.inl rfl)
          · exact Or.inl rfl
          · exact Or.inr (Or.inr ⟨hmem, hother⟩)
      · next hnotBehind =>
        -- the first span has the range of the new one and gives way
        have heq : first.range = span.range := range_eq_of_not_before hnotBehind hnot
        rw [List.mem_cons, List.mem_cons]
        constructor
        · rintro (rfl | hmem)
          · exact Or.inl rfl
          · exact Or.inr ⟨Or.inr hmem, heq ▸ (range_ne_of_before (hfirst other hmem)).symm⟩
        · rintro (rfl | ⟨rfl | hmem, hother⟩)
          · exact Or.inl rfl
          · exact absurd heq hother
          · exact Or.inr hmem

/-- A span is put in at its place. -/
theorem sorted_insert {span : Span} {spans : List Span} (h : Sorted spans) :
    Sorted (insert span spans) := by
  induction spans with
  | nil => exact List.pairwise_singleton _ span
  | cons first rest ih =>
    obtain ⟨hfirst, hrest⟩ := List.pairwise_cons.mp h
    rw [insert]
    split
    · next hbefore =>
      refine List.pairwise_cons.mpr ⟨?_, h⟩
      intro behind hbehind
      rcases List.mem_cons.mp hbehind with rfl | hmem
      · exact hbefore
      · exact before_trans hbefore (hfirst behind hmem)
    · next hnot =>
      split
      · next hbehind =>
        refine List.pairwise_cons.mpr ⟨?_, ih hrest⟩
        intro other hother
        rcases eq_or_mem_of_mem_insert hother with rfl | hmem
        · exact hbehind
        · exact hfirst other hmem
      · next hnotBehind =>
        have heq : first.range = span.range := range_eq_of_not_before hnotBehind hnot
        refine List.pairwise_cons.mpr ⟨?_, hrest⟩
        intro behind hmem
        obtain ⟨hstart, hstop⟩ := Prod.mk.inj heq
        have hbefore := hfirst behind hmem
        rw [before_iff, hstart, hstop] at hbefore
        exact before_iff.mpr hbefore

/-! ## The marks of one rule -/

/-- Spans stay sorted when ranges are marked. -/
theorem sorted_mark (style : Style) (feature : Feature) {ranges : List (Nat × Nat)} {spans : List Span}
    (h : Sorted spans) : Sorted (mark style feature spans ranges) := by
  unfold mark
  induction ranges generalizing spans with
  | nil => exact h
  | cons range ranges ih =>
    rw [List.foldl_cons]
    apply ih
    split
    · exact sorted_insert h
    · exact h

/-- A span marks one of some ranges when it marks the first or one of the others. -/
theorem marks_cons {span : Span} {range : Nat × Nat} {ranges : List (Nat × Nat)} :
    span.Marks (range :: ranges) ↔ span.range = range ∧ range.1 < range.2 ∨ span.Marks ranges := by
  unfold Marks
  rw [List.mem_cons, or_and_right]
  refine or_congr_left ⟨?_, ?_⟩
  · rintro ⟨rfl, hlt⟩
    exact ⟨rfl, hlt⟩
  · rintro ⟨rfl, hlt⟩
    exact ⟨rfl, hlt⟩

/-- The ranges that are marked get the style and the feature of the mark; the other spans stay. -/
theorem mem_mark_iff {style : Style} {feature : Feature} {ranges : List (Nat × Nat)} {span : Span}
    {spans : List Span} (h : Sorted spans) :
    span ∈ mark style feature spans ranges ↔
      span.Marks ranges ∧ span.style = style ∧ span.feature = feature ∨
        span ∈ spans ∧ ¬ span.Marks ranges := by
  induction ranges generalizing spans with
  | nil => simp [mark, Marks]
  | cons range ranges ih =>
    have hfold : mark style feature spans (range :: ranges) =
        mark style feature (if range.1 < range.2 then
          insert ⟨range.1, range.2, style, feature⟩ spans else spans) ranges := rfl
    rw [hfold, marks_cons]
    split
    · next hlt =>
      have hnew : span = ⟨range.1, range.2, style, feature⟩ ↔
          span.range = range ∧ span.style = style ∧ span.feature = feature := by
        obtain ⟨start, stop, own, named⟩ := span
        obtain ⟨first, last⟩ := range
        simp [Span.range, and_assoc]
      have hrange : (⟨range.1, range.2, style, feature⟩ : Span).range = range := rfl
      rw [ih (sorted_insert h), mem_insert_iff h, hnew, hrange]
      tauto
    · next hempty =>
      rw [ih h]
      simp only [hempty, and_false, false_or]

end Span

/-! ## The marks of many rules -/

/-- The last of some rules that marks a range, when the range is not empty. -/
def lastMarking (rules : List Rule) (ranges : Rule → List (Nat × Nat)) (range : Nat × Nat) :
    Option Rule :=
  if range.1 < range.2 then rules.reverse.find? (fun rule => decide (range ∈ ranges rule)) else none

/-- Some spans are others overridden at the ranges that have a mark, each marked by a rule. -/
structure Span.Overridden (mark : Nat × Nat → Option Rule) (feature : Feature)
    (below above : List Span) : Prop where
  /-- The ranges are those of the others and those that have a mark. -/
  ranges : ∀ range, range ∈ above.map Span.range ↔
    range ∈ below.map Span.range ∨ (mark range).isSome = true
  /-- A range with a mark has the style of the rule that marks it, and one feature. -/
  marked : ∀ span ∈ above, ∀ rule, mark span.range = some rule →
    span.style = rule.style ∧ span.feature = feature
  /-- Where there is no mark nothing changes. -/
  unmarked : ∀ span, mark span.range = none → (span ∈ above ↔ span ∈ below)

/-- The spans after rules have marked their ranges, one after the other, on top of others. -/
def markAll (ranges : Rule → List (Nat × Nat)) (spans : List Span) (rules : List Rule) : List Span :=
  rules.foldl (fun spans rule => Span.mark rule.style rule.feature spans (ranges rule)) spans

/-- Rules can be marked part by part. -/
theorem markAll_append (ranges : Rule → List (Nat × Nat)) (spans : List Span)
    (first rest : List Rule) :
    markAll ranges spans (first ++ rest) = markAll ranges (markAll ranges spans first) rest :=
  List.foldl_append

/-- A rule behind others is the last to mark a range, if it marks it. -/
theorem lastMarking_concat (rules : List Rule) (rule : Rule) (ranges : Rule → List (Nat × Nat))
    (range : Nat × Nat) :
    lastMarking (rules ++ [rule]) ranges range =
      if range ∈ ranges rule ∧ range.1 < range.2 then some rule
      else lastMarking rules ranges range := by
  unfold lastMarking
  by_cases hlt : range.1 < range.2 <;> by_cases hmem : range ∈ ranges rule <;> simp [hlt, hmem]

/-- The last rule that marks a range is one of the rules, and the range is not empty. -/
theorem mem_of_lastMarking {rules : List Rule} {ranges : Rule → List (Nat × Nat)}
    {range : Nat × Nat} {rule : Rule} (h : lastMarking rules ranges range = some rule) :
    rule ∈ rules ∧ range.1 < range.2 := by
  unfold lastMarking at h
  split at h
  · next hlt => exact ⟨List.mem_reverse.mp (List.mem_of_find?_eq_some h), hlt⟩
  · cases h

section Rules

variable {ranges : Rule → List (Nat × Nat)} {spans : List Span}

/-- Spans stay sorted when rules are marked. -/
theorem sorted_markAll (h : Span.Sorted spans) (rules : List Rule) :
    Span.Sorted (markAll ranges spans rules) := by
  induction rules using List.reverseRecOn with
  | nil => exact h
  | append_singleton rules rule ih =>
    rw [markAll_append]
    exact Span.sorted_mark _ _ ih

/-- The last rule that marks a range tells the style and the feature of its span; where no rule marks a
range, what was there before stays. -/
theorem mem_markAll_iff (h : Span.Sorted spans) (rules : List Rule) (span : Span) :
    span ∈ markAll ranges spans rules ↔
      match lastMarking rules ranges span.range with
      | some rule => span.style = rule.style ∧ span.feature = rule.feature
      | none => span ∈ spans := by
  -- from the last rule on, as that one has the final say
  induction rules using List.reverseRecOn with
  | nil => simp [markAll, lastMarking]
  | append_singleton rules rule ih =>
    have hlast : markAll ranges spans (rules ++ [rule]) =
        Span.mark rule.style rule.feature (markAll ranges spans rules) (ranges rule) :=
      markAll_append ranges spans rules [rule]
    have hmarks : span.range ∈ ranges rule ∧ span.range.1 < span.range.2 ↔
        span.Marks (ranges rule) := Iff.rfl
    rw [hlast, Span.mem_mark_iff (sorted_markAll h rules), ih, lastMarking_concat]
    by_cases hrule : span.Marks (ranges rule)
    · rw [if_pos (hmarks.mpr hrule)]
      simp [hrule]
    · rw [if_neg (mt hmarks.mp hrule)]
      simp [hrule]

/-- Rules of one feature override what was there before. -/
theorem overridden_markAll (h : Span.Sorted spans) {rules : List Rule} {feature : Feature}
    (hrules : ∀ rule ∈ rules, rule.feature = feature) :
    Span.Overridden (lastMarking rules ranges) feature spans (markAll ranges spans rules) := by
  have hnone : ∀ span : Span, lastMarking rules ranges span.range = none →
      (span ∈ markAll ranges spans rules ↔ span ∈ spans) := by
    intro span hlast
    rw [mem_markAll_iff h rules, hlast]
  have hsome : ∀ (span : Span) (rule : Rule), lastMarking rules ranges span.range = some rule →
      (span ∈ markAll ranges spans rules ↔ span.style = rule.style ∧ span.feature = feature) := by
    intro span rule hlast
    have hmem : span ∈ markAll ranges spans rules ↔ _ := mem_markAll_iff h rules span
    rw [hlast] at hmem
    exact hrules rule (mem_of_lastMarking hlast).1 ▸ hmem
  refine ⟨?_, fun span hspan rule hlast => (hsome span rule hlast).mp hspan, hnone⟩
  intro range
  rw [List.mem_map, List.mem_map]
  cases hlast : lastMarking rules ranges range with
  | some rule =>
    -- the rule puts a span of its own there
    have hmark := (hsome ⟨range.1, range.2, rule.style, feature⟩ rule hlast).mpr ⟨rfl, rfl⟩
    exact iff_of_true ⟨_, hmark, rfl⟩ (Or.inr rfl)
  | none =>
    have hsame : ∀ span : Span, span.range = range →
        (span ∈ markAll ranges spans rules ↔ span ∈ spans) := by
      rintro span rfl
      exact hnone span hlast
    constructor
    · rintro ⟨span, hspan, hrange⟩
      exact Or.inl ⟨span, (hsame span hrange).mp hspan, hrange⟩
    · rintro (⟨span, hspan, hrange⟩ | hmark)
      · exact ⟨span, (hsame span hrange).mpr hspan, hrange⟩
      · cases hmark

end Rules

namespace Highlight

/-- The spans of a state are sorted. -/
theorem sorted_spansOf (state : Highlight) (language : Language)
    (ranges : Rule → List (Nat × Nat)) : Span.Sorted (state.spansOf language ranges) :=
  sorted_markAll List.Pairwise.nil (state.active language)

/-- At level zero there are no spans. -/
theorem spansOf_level_zero (rules : Shared RuleSet) (features : Shared FeatureList)
    (language : Language) (ranges : Rule → List (Nat × Nat)) :
    (start rules features 0).spansOf language ranges = [] := by
  have hnone : (start rules features 0).active language = [] := by
    simp [active, isEnabled, start]
  rw [spansOf, hnone]
  rfl

section Overlay

variable {rules overlay merged : Shared RuleSet} {features raised : Shared FeatureList}
  {feature : Feature} {language : Language} {level : Nat}

/-- With an overlay behind other rules, and its feature on top, the overlay is active besides the rules
that were active without it, when these have other features. -/
theorem active_of_overlay (hmerged : merged.value = rules.value.concat overlay.value)
    (hraised : raised.value = features.value.withTopPriority feature)
    (hrules : ∀ rule ∈ rules.value.rules, rule.feature ≠ feature)
    (hoverlay : ∀ rule ∈ overlay.value.rules, rule.language = language ∧ rule.feature = feature)
    (hlevel : 1 ≤ level) :
    (start merged raised level).active language =
      (start rules features level).active language ++ overlay.value.rules := by
  have heffective : ∀ other : Feature, other ∈ (start merged raised level).effective ↔
      other = feature ∨ other ∈ (start rules features level).effective := by
    intro other
    simp only [start, hraised]
    exact FeatureList.mem_effective_withTopPriority hlevel feature other
  have happend : (start merged raised level).rules.value.rules =
      rules.value.rules ++ overlay.value.rules := congrArg RuleSet.rules hmerged
  rw [active, active, happend, List.filter_append]
  congr 1
  · -- the rules below are enabled when they were before
    apply List.filter_congr
    intro rule hrule
    simp [isEnabled, heffective, hrules rule hrule]
  · -- and those of the overlay all are
    rw [List.filter_eq_self]
    intro rule hrule
    obtain ⟨hlanguage, hfeature⟩ := hoverlay rule hrule
    simp [isEnabled, heffective, hlanguage, hfeature]

/-- With an overlay behind other rules, and its feature on top, the spans are those without it,
overridden at the ranges that the overlay marks. -/
theorem overridden_spansOf (hmerged : merged.value = rules.value.concat overlay.value)
    (hraised : raised.value = features.value.withTopPriority feature)
    (hrules : ∀ rule ∈ rules.value.rules, rule.feature ≠ feature)
    (hoverlay : ∀ rule ∈ overlay.value.rules, rule.language = language ∧ rule.feature = feature)
    (hlevel : 1 ≤ level) (ranges : Rule → List (Nat × Nat)) :
    Span.Overridden (lastMarking overlay.value.rules ranges) feature
      ((start rules features level).spansOf language ranges)
      ((start merged raised level).spansOf language ranges) := by
  have hspans : (start merged raised level).spansOf language ranges =
      markAll ranges ((start rules features level).spansOf language ranges)
        overlay.value.rules := by
    rw [spansOf, active_of_overlay hmerged hraised hrules hoverlay hlevel]
    exact markAll_append ranges [] _ _
  rw [hspans]
  exact overridden_markAll (sorted_spansOf _ _ _) fun rule hrule => (hoverlay rule hrule).2

end Overlay

end Highlight

end Dimming
