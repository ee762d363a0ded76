import Dimming.Proofs.Features.Tiers
import Dimming.Proofs.Highlighting.Resolved

/-!
# Raising the level

A higher level enables more features, so more rules count and every range that was shown is shown still.
Which rule wins a range may change, but only for one that stands later in the list and that the lower
level left out. Above the number of tiers there is nothing left to enable.
-/

set_option autoImplicit false

namespace Dimming

namespace FeatureList

/-- The tier with the given number, counted from the top, holds the feature. -/
def Holds (list : FeatureList) (number : Nat) (feature : Feature) : Prop :=
  ∃ tier, list.tiers[number]? = some tier ∧ feature ∈ tier

variable {list : FeatureList} {feature : Feature} {low high : Nat}

/-- In effect at a level is what one of the tiers up to it holds. -/
theorem mem_effective_iff_holds {level : Nat} :
    feature ∈ list.effective level ↔ ∃ number, number < level ∧ list.Holds number feature := by
  rw [mem_effective]
  constructor
  · rintro ⟨tier, htier, hfeature⟩
    obtain ⟨number, hnumber⟩ := List.mem_iff_getElem?.mp htier
    rw [List.getElem?_take] at hnumber
    split at hnumber
    · next hlt => exact ⟨number, hlt, tier, hnumber, hfeature⟩
    · cases hnumber
  · rintro ⟨number, hlt, tier, hnumber, hfeature⟩
    refine ⟨tier, List.mem_iff_getElem?.mpr ⟨number, ?_⟩, hfeature⟩
    rw [List.getElem?_take, if_pos hlt, hnumber]

/-- What a higher level enables in addition is in one of the tiers between, and in none above them. -/
theorem holds_between (hmem : feature ∈ list.effective high) (hnot : feature ∉ list.effective low) :
    (∃ number, low ≤ number ∧ number < high ∧ list.Holds number feature) ∧
      ∀ number, number < low → ¬ list.Holds number feature := by
  obtain ⟨number, hlt, hholds⟩ := mem_effective_iff_holds.mp hmem
  have habove : ∀ number, number < low → ¬ list.Holds number feature :=
    fun number hlow hholds => hnot (mem_effective_iff_holds.mpr ⟨number, hlow, hholds⟩)
  exact ⟨⟨number, Nat.le_of_not_lt fun hlow => habove number hlow hholds, hlt, hholds⟩, habove⟩

/-- Beyond the last tier nothing more comes into effect. -/
theorem effective_of_length_le (list : FeatureList) {level : Nat} (h : list.tiers.length ≤ level) :
    list.effective level = list.effective list.tiers.length := by
  unfold effective
  rw [List.take_of_length_le h, List.take_length]

end FeatureList

/-- A span is its range, its style and its feature. -/
theorem Span.ext_range {a b : Span} (hrange : a.range = b.range) (hstyle : a.style = b.style)
    (hfeature : a.feature = b.feature) : a = b := by
  obtain ⟨hstart, hstop⟩ := Prod.mk.inj hrange
  cases a
  cases b
  simp_all

namespace Highlight

/-- After the level is set, what is in effect is what the list has at that level. -/
@[simp]
theorem effective_setLevel (state : Highlight) (level : Nat) :
    (state.setLevel level).effective = state.features.value.effective level :=
  rfl

/-- The rule at a place of the list captures a range, and no rule behind it does. -/
structure Wins (state : Highlight) (language : Language) (ranges : Rule → List (Nat × Nat))
    (range : Nat × Nat) (place : Nat) (rule : Rule) : Prop where
  here : state.rules.value.rules[place]? = some rule
  captures : state.Captures language ranges range rule
  last : ∀ later other, place < later → state.rules.value.rules[later]? = some other →
    ¬ state.Captures language ranges range other

section Levels

variable {state : Highlight} {language : Language} {ranges : Rule → List (Nat × Nat)}
  {range : Nat × Nat} {rule winner : Rule} {span : Span}

/-- Every span comes of a rule that wins its range. -/
theorem exists_wins (h : span ∈ state.spansOf language ranges) :
    ∃ place rule, state.Wins language ranges span.range place rule ∧
      span.style = rule.style ∧ span.feature = rule.feature := by
  obtain ⟨rule, hlast, hstyle, hfeature⟩ := mem_spansOf_iff.mp h
  obtain ⟨-, before, later, hsplit, hcaptures, hlater⟩ := lastMarking_active_eq_some_iff.mp hlast
  refine ⟨before.length, rule, ⟨?_, hcaptures, ?_⟩, hstyle, hfeature⟩
  · rw [hsplit, List.getElem?_append_right (Nat.le_refl _), Nat.sub_self, List.getElem?_cons_zero]
  · intro number other hlt hother
    rw [hsplit, List.getElem?_append_right (Nat.le_of_lt hlt)] at hother
    obtain ⟨behind, hbehind⟩ : ∃ behind, number - before.length = behind + 1 :=
      Nat.exists_eq_succ_of_ne_zero (Nat.sub_ne_zero_of_lt hlt)
    rw [hbehind, List.getElem?_cons_succ] at hother
    exact hlater other (List.mem_of_getElem? hother)

variable {low high place other : Nat}

/-- A rule that captures a range at a level does so at every higher one. -/
theorem Captures.raise (h : (state.setLevel low).Captures language ranges range rule)
    (hle : low ≤ high) : (state.setLevel high).Captures language ranges range rule :=
  ⟨h.1, state.features.value.effective_subset_of_le hle h.2.1, h.2.2⟩

/-- The winner at a higher level does not stand in front of the winner at a lower one. -/
theorem Wins.le (hlow : (state.setLevel low).Wins language ranges range place rule)
    (hhigh : (state.setLevel high).Wins language ranges range other winner) (hle : low ≤ high) :
    place ≤ other := by
  by_contra hlt
  exact hhigh.last place rule (Nat.lt_of_not_le hlt) hlow.here (hlow.captures.raise hle)

/-- A winner behind the one of a lower level has a feature that the lower level does not enable. -/
theorem Wins.feature_not_mem (hlow : (state.setLevel low).Wins language ranges range place rule)
    (hhigh : (state.setLevel high).Wins language ranges range other winner) (hlt : place < other) :
    winner.feature ∉ state.features.value.effective low := by
  intro henabled
  obtain ⟨hlanguage, -, hrange⟩ := hhigh.captures
  exact hlow.last other winner hlt hhigh.here ⟨hlanguage, henabled, hrange⟩

/-- A range that has a span at a level has one at every higher level. -/
theorem exists_span_of_raise (h : span ∈ (state.setLevel low).spansOf language ranges)
    (hle : low ≤ high) :
    ∃ other ∈ (state.setLevel high).spansOf language ranges, other.range = span.range := by
  obtain ⟨rule, hlast, -⟩ := mem_spansOf_iff.mp h
  obtain ⟨hlt, hsome⟩ := isSome_lastMarking_active.mp (Option.isSome_of_eq_some hlast)
  obtain ⟨rule, hrule, hcaptures⟩ := hsome
  have hraised : (lastMarking ((state.setLevel high).active language) ranges span.range).isSome = true :=
    isSome_lastMarking_active.mpr ⟨hlt, rule, hrule, hcaptures.raise hle⟩
  obtain ⟨winner, hwinner⟩ := Option.isSome_iff_exists.mp hraised
  exact ⟨⟨span.start, span.stop, winner.style, winner.feature⟩,
    mem_spansOf_iff.mpr ⟨winner, hwinner, rfl, rfl⟩, rfl⟩

/-- Beyond the last tier the level changes no span. -/
theorem spansOf_setLevel_of_length_le (state : Highlight) (language : Language)
    (ranges : Rule → List (Nat × Nat)) {level : Nat}
    (h : state.features.value.tiers.length ≤ level) :
    (state.setLevel level).spansOf language ranges =
      (state.setLevel state.features.value.tiers.length).spansOf language ranges := by
  unfold spansOf active isEnabled
  rw [effective_setLevel, effective_setLevel, FeatureList.effective_of_length_le _ h]
  rfl

end Levels

end Highlight

end Dimming

namespace Dimming.Proofs.LevelRaising

open Highlight

/-- Raising the level only adds ranges. Take any live rules and tiers, in which a feature may stand in
several tiers, any ranges that the rules capture, and two levels. Each range that is shown at the lower
level is shown at the higher one. For the two spans of a range, either the same rule wins at both levels
and they are the same span; or the winner at the higher level stands later in the list, and its feature is
in a tier that only the higher level enables and in none that the lower one does. From the number of tiers
on, all levels show the same. -/
theorem raising_adds_ranges (state : Highlight) (language : Language)
    (ranges : Rule → List (Nat × Nat)) (low more : Nat) :
    let below := state.setLevel low
    let above := state.setLevel (low + more)
    let tiers := state.features.value
    (∀ range ∈ (below.spansOf language ranges).map Span.range,
      range ∈ (above.spansOf language ranges).map Span.range) ∧
    (∀ span ∈ below.spansOf language ranges, ∀ raised ∈ above.spansOf language ranges,
      raised.range = span.range →
      ∃ place rule other winner,
        below.Wins language ranges span.range place rule ∧
        span.style = rule.style ∧ span.feature = rule.feature ∧
        above.Wins language ranges span.range other winner ∧
        raised.style = winner.style ∧ raised.feature = winner.feature ∧
        (place = other ∧ raised = span ∨
          place < other ∧
          (∃ number, low ≤ number ∧ number < low + more ∧ tiers.Holds number winner.feature) ∧
          ∀ number, number < low → ¬ tiers.Holds number winner.feature)) ∧
    (state.setLevel (tiers.tiers.length + more)).spansOf language ranges =
      (state.setLevel tiers.tiers.length).spansOf language ranges := by
  intro below above tiers
  have hle : low ≤ low + more := Nat.le_add_right low more
  refine ⟨?_, ?_, spansOf_setLevel_of_length_le state language ranges (Nat.le_add_right _ more)⟩
  · intro range hrange
    obtain ⟨span, hspan, rfl⟩ := List.mem_map.mp hrange
    obtain ⟨raised, hraised, heq⟩ := exists_span_of_raise hspan hle
    exact List.mem_map.mpr ⟨raised, hraised, heq⟩
  · intro span hspan raised hraised hrange
    obtain ⟨place, rule, hlow, hstyle, hfeature⟩ := exists_wins hspan
    obtain ⟨other, winner, hhigh, hraisedStyle, hraisedFeature⟩ := exists_wins hraised
    rw [hrange] at hhigh
    refine ⟨place, rule, other, winner, hlow, hstyle, hfeature, hhigh, hraisedStyle, hraisedFeature, ?_⟩
    -- winners are compared by where they stand, since a list may hold the same rule twice
    obtain rfl | hlt := Nat.eq_or_lt_of_le (hlow.le hhigh hle)
    · obtain rfl : rule = winner := Option.some.inj (hlow.here.symm.trans hhigh.here)
      exact Or.inl ⟨rfl, Span.ext_range hrange (hraisedStyle.trans hstyle.symm)
        (hraisedFeature.trans hfeature.symm)⟩
    · have hnot := hlow.feature_not_mem hhigh hlt
      exact Or.inr ⟨hlt, FeatureList.holds_between hhigh.captures.2.1 hnot⟩

/-- A range that is there already gets another style when a rule further down begins to count. -/
example :
    let rule (style feature : String) : Rule := ⟨0, "", ⟨style⟩, ⟨feature⟩, .json, ⟨⟨[], []⟩, 0⟩⟩
    let state := Highlight.start ⟨0, ⟨[rule "plain" "a", rule "loud" "b"]⟩⟩ ⟨0, ⟨[[⟨"a"⟩], [⟨"b"⟩]]⟩⟩ 0
    let shown (level : Nat) := (state.setLevel level).spansOf .json (fun _ => [(2, 3)])
    shown 1 = [⟨2, 3, ⟨"plain"⟩, ⟨"a"⟩⟩] ∧ shown 2 = [⟨2, 3, ⟨"loud"⟩, ⟨"b"⟩⟩] := by
  decide

end Dimming.Proofs.LevelRaising
