import Dimming.Feature
import Mathlib.Tactic.Common

/-!
# Which features a level enables

A level enables the features of its first tiers, however often they are named. Putting a feature on top
enables it at every level but zero, and changes nothing about any other feature.
-/

set_option autoImplicit false

namespace Dimming.FeatureList

/-- Leaving out repetitions loses no feature. -/
@[simp]
theorem mem_distinct {feature : Feature} {tier : List Feature} :
    feature ∈ distinct tier ↔ feature ∈ tier := by
  induction tier with
  | nil => rfl
  | cons first rest ih =>
    rw [distinct, List.mem_cons, List.mem_cons, List.mem_filter, ih]
    by_cases h : feature = first <;> simp [h]

/-- A feature is enabled when one of the first tiers holds it. -/
theorem mem_effective {list : FeatureList} {level : Nat} {feature : Feature} :
    feature ∈ list.effective level ↔ ∃ tier ∈ list.tiers.take level, feature ∈ tier := by
  rw [effective, mem_distinct, List.mem_flatten]

/-- At level zero nothing is in effect. -/
@[simp]
theorem effective_zero (list : FeatureList) : list.effective 0 = [] := rfl

/-- Putting a feature on top enables just this one in addition, at every level but zero. -/
theorem mem_effective_withTopPriority {list : FeatureList} {level : Nat} (hlevel : 1 ≤ level)
    (raised feature : Feature) :
    feature ∈ (list.withTopPriority raised).effective level ↔
      feature = raised ∨ feature ∈ list.effective level := by
  obtain ⟨level, rfl⟩ := Nat.exists_eq_add_of_le' hlevel
  unfold withTopPriority
  split
  · next htiers => simp [mem_effective, htiers]
  · next top lower htiers =>
    split
    · next hmem =>
      -- the list stays as it is, so the feature has to be enabled already
      have henabled : raised ∈ list.effective (level + 1) :=
        mem_effective.mpr ⟨top, by simp [htiers], hmem⟩
      constructor
      · exact Or.inr
      · rintro (rfl | h)
        · exact henabled
        · exact h
    · simp [mem_effective, htiers, or_assoc]

end Dimming.FeatureList
