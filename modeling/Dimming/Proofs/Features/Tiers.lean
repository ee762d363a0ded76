import Dimming.Proofs.Features.Effective
import Mathlib.Data.List.Forall2
import Mathlib.Data.List.Nodup

/-!
# The tiers of a feature list

A list that is built from tiers holds no name twice in one tier, and each name stands where it was first
seen. Putting a feature on top keeps this, moves nothing else, and does nothing the second time. Levels
enable more features the higher they are.
-/

set_option autoImplicit false

namespace Dimming.FeatureList

/-! ## Names that are kept at their first place -/

/-- The names of a tier, in the order in which they were first seen. -/
structure FirstSeen (names kept : List Feature) : Prop where
  mem_iff : ∀ feature, feature ∈ kept ↔ feature ∈ names
  ordered : kept.Pairwise (fun earlier later => names.idxOf earlier < names.idxOf later)

/-- No name is kept twice. -/
theorem FirstSeen.nodup {names kept : List Feature} (h : FirstSeen names kept) : kept.Nodup := by
  apply List.Pairwise.imp _ h.ordered
  rintro earlier later hlt rfl
  exact absurd hlt (Nat.lt_irrefl _)

/-- A name in front that is left out behind it shifts the first places of the others by one. -/
theorem FirstSeen.cons {names kept : List Feature} (h : FirstSeen names kept) (feature : Feature) :
    FirstSeen (feature :: names) (feature :: kept.filter (· ≠ feature)) where
  mem_iff other := by
    rw [List.mem_cons, List.mem_cons, List.mem_filter, h.mem_iff]
    by_cases hother : other = feature <;> simp [hother]
  ordered := by
    have hne : ∀ other ∈ kept.filter (· ≠ feature), other ≠ feature := by
      intro other hother
      simpa using (List.mem_filter.mp hother).2
    rw [List.pairwise_cons]
    constructor
    · intro other hother
      rw [List.idxOf_cons_self, List.idxOf_cons_ne _ (hne other hother).symm]
      exact Nat.succ_pos _
    · apply List.Pairwise.imp_of_mem _ (List.Pairwise.filter _ h.ordered)
      intro earlier later hearlier hlater hlt
      rw [List.idxOf_cons_ne _ (hne earlier hearlier).symm,
        List.idxOf_cons_ne _ (hne later hlater).symm]
      exact Nat.succ_lt_succ hlt

/-- Keeping the first of equal names keeps their order. -/
theorem firstSeen_distinct (names : List Feature) : FirstSeen names (distinct names) := by
  induction names with
  | nil => exact ⟨fun _ => Iff.rfl, List.Pairwise.nil⟩
  | cons feature rest ih => exact ih.cons feature

/-- Each tier of a list keeps the names that it was given, in the order in which they were first seen. -/
theorem firstSeen_ofTiers (tiers : List (List Feature)) :
    List.Forall₂ FirstSeen tiers (ofTiers tiers).tiers := by
  rw [ofTiers, List.forall₂_map_right_iff, List.forall₂_same]
  exact fun names _ => firstSeen_distinct names

/-! ## What putting a feature on top does to the tiers -/

section Raised

variable (list : FeatureList) (feature : Feature)

/-- A feature that is on top already stays where it is. -/
theorem withTopPriority_of_mem (h : feature ∈ list.topTier) :
    list.withTopPriority feature = list := by
  unfold topTier at h
  unfold withTopPriority
  split
  · next htiers =>
    rw [htiers] at h
    cases h
  · next top lower htiers =>
    rw [htiers] at h
    exact if_pos h

/-- Without tiers the top tier counts as empty, and there is no tier below. -/
theorem tiers_withTopPriority_of_not_mem (h : feature ∉ list.topTier) :
    (list.withTopPriority feature).tiers = (feature :: list.topTier) :: list.tiers.tail := by
  unfold topTier at h ⊢
  unfold withTopPriority
  split
  · next htiers =>
    rw [htiers]
    rfl
  · next top lower htiers =>
    rw [htiers] at h ⊢
    exact congrArg tiers (if_neg h)

/-- A feature that is raised is on top. -/
theorem topTier_withTopPriority :
    feature ∈ (list.withTopPriority feature).topTier := by
  by_cases h : feature ∈ list.topTier
  · rw [withTopPriority_of_mem list feature h]
    exact h
  · rw [topTier, tiers_withTopPriority_of_not_mem list feature h]
    exact List.mem_cons_self

/-- Raising a feature twice is raising it once. -/
theorem withTopPriority_idem :
    (list.withTopPriority feature).withTopPriority feature = list.withTopPriority feature :=
  withTopPriority_of_mem _ feature (topTier_withTopPriority list feature)

/-- The tiers of a list are its top tier and those below, unless there are none. -/
theorem count_eq :
    list.count feature =
      (if feature ∈ list.topTier then 1 else 0)
        + list.tiers.tail.countP (fun tier => decide (feature ∈ tier)) := by
  unfold count topTier
  cases list.tiers with
  | nil => rfl
  | cons top lower =>
    rw [List.countP_cons, Nat.add_comm]
    simp

/-- Raising a feature counts once more, unless it was on top already. -/
theorem count_withTopPriority :
    (list.withTopPriority feature).count feature =
      if feature ∈ list.topTier then list.count feature else list.count feature + 1 := by
  by_cases h : feature ∈ list.topTier
  · rw [withTopPriority_of_mem list feature h, if_pos h]
  · have htiers := tiers_withTopPriority_of_not_mem list feature h
    rw [count_eq, count_eq, topTier, htiers, if_neg h, if_neg h]
    simp only [List.headD_cons, List.tail_cons, List.mem_cons_self, if_true]
    omega

end Raised

/-! ## Lists without repetitions -/

/-- No tier holds a name twice. -/
def Tidy (list : FeatureList) : Prop :=
  ∀ tier ∈ list.tiers, tier.Nodup

/-- A list that is made of tiers is tidy. -/
theorem tidy_ofTiers (tiers : List (List Feature)) : (ofTiers tiers).Tidy := by
  intro tier htier
  obtain ⟨names, -, rfl⟩ := List.mem_map.mp htier
  exact (firstSeen_distinct names).nodup

/-- A tidy list stays so when a feature is raised. -/
theorem Tidy.withTopPriority {list : FeatureList} (h : list.Tidy) (feature : Feature) :
    (list.withTopPriority feature).Tidy := by
  by_cases hmem : feature ∈ list.topTier
  · rw [withTopPriority_of_mem list feature hmem]
    exact h
  · intro tier htier
    rw [tiers_withTopPriority_of_not_mem list feature hmem] at htier
    unfold topTier at hmem htier
    rw [Tidy] at h
    cases htiers : list.tiers with
    | nil =>
      rw [htiers] at htier
      rw [List.mem_singleton.mp htier]
      exact List.nodup_singleton feature
    | cons top lower =>
      rw [htiers] at h hmem htier
      obtain rfl | hlower := List.mem_cons.mp htier
      · exact List.nodup_cons.mpr ⟨hmem, h top List.mem_cons_self⟩
      · exact h tier (List.mem_cons_of_mem top hlower)

/-- Puts features on top, one after the other. -/
def raise (list : FeatureList) (features : List Feature) : FeatureList :=
  features.foldl FeatureList.withTopPriority list

/-- A tidy list stays so when features are raised one after the other. -/
theorem Tidy.raise {list : FeatureList} (h : list.Tidy) (features : List Feature) :
    (list.raise features).Tidy := by
  induction features generalizing list with
  | nil => exact h
  | cons feature rest ih => exact ih (h.withTopPriority feature)

/-- A higher level enables all that a lower one does. -/
theorem effective_subset_of_le (list : FeatureList) {low high : Nat} (h : low ≤ high) :
    list.effective low ⊆ list.effective high := by
  intro feature hfeature
  obtain ⟨tier, htier, hmem⟩ := mem_effective.mp hfeature
  exact mem_effective.mpr ⟨tier, (List.take_prefix_take_left h).subset htier, hmem⟩

end Dimming.FeatureList

namespace Dimming.Proofs.FeatureTiers

open FeatureList

/-- Take any list that is built from tiers, with repetitions and empty tiers, and then gets features put
on top of it any number of times. No tier holds a name twice, and building keeps the names of each tier
where they were first seen. For any such list, feature and level, putting the feature on top leaves a list
that has it in its top tier as it is; otherwise the feature comes to stand in front of the former top tier
and the tiers below stay. Doing it again changes nothing, and the feature is in at most one tier more.
At level zero nothing is enabled, and at any other level the feature is, besides what was enabled
before. What a level enables, higher levels enable too. -/
theorem feature_list_laws (tiers : List (List Feature)) (earlier : List Feature) (feature : Feature)
    (level : Nat) :
    let list := (ofTiers tiers).raise earlier
    let raised := list.withTopPriority feature
    List.Forall₂ FirstSeen tiers (ofTiers tiers).tiers ∧
    (∀ tier ∈ list.tiers, tier.Nodup) ∧
    (if feature ∈ list.topTier then raised = list
      else raised.tiers = (feature :: list.topTier) :: list.tiers.tail) ∧
    raised.withTopPriority feature = raised ∧
    list.count feature ≤ raised.count feature ∧ raised.count feature ≤ list.count feature + 1 ∧
    raised.effective 0 = [] ∧
    (∀ other, other ∈ raised.effective (level + 1) ↔
      other = feature ∨ other ∈ list.effective (level + 1)) ∧
    ∀ higher, list.effective level ⊆ list.effective (level + higher) := by
  intro list raised
  have hcount : raised.count feature = _ := count_withTopPriority list feature
  refine ⟨firstSeen_ofTiers tiers, (tidy_ofTiers tiers).raise earlier, ?_,
    withTopPriority_idem list feature, ?_, ?_, effective_zero raised,
    mem_effective_withTopPriority (Nat.le_add_left 1 level) feature,
    fun higher => list.effective_subset_of_le (Nat.le_add_right level higher)⟩
  · split
    · next h => exact withTopPriority_of_mem list feature h
    · next h => exact tiers_withTopPriority_of_not_mem list feature h
  all_goals
    rw [hcount]
    split <;> omega

/-- A feature of a lower tier comes to stand in two tiers, and one that is on top already stays behind. -/
example :
    let list := (ofTiers [[⟨"a"⟩, ⟨"b"⟩, ⟨"a"⟩], [⟨"c"⟩]]).raise [⟨"c"⟩, ⟨"b"⟩]
    list.tiers = [[⟨"c"⟩, ⟨"a"⟩, ⟨"b"⟩], [⟨"c"⟩]] ∧ list.count ⟨"c"⟩ = 2 := by
  decide

end Dimming.Proofs.FeatureTiers
