/-!
# Tiered feature lists

A feature is a named group of rules. A feature list is a sequence of tiers, highest priority first,
and a level enables its first tiers. The tiers are never flattened: putting a feature on top changes
the first tier alone.
-/

set_option autoImplicit false

namespace Dimming

/-- The name of a group of rules that is switched as one. -/
structure Feature where
  name : String
  deriving DecidableEq, Repr, Inhabited

/-- A sequence of feature tiers, highest priority first. -/
structure FeatureList where
  tiers : List (List Feature)
  deriving DecidableEq, Repr, Inhabited

namespace FeatureList

/-- The names of a tier, each at its first place only. -/
def distinct : List Feature → List Feature
  | [] => []
  | feature :: rest => feature :: (distinct rest).filter (· ≠ feature)

/-- Builds a list from tiers; a name repeated in one tier counts once. -/
def ofTiers (tiers : List (List Feature)) : FeatureList :=
  ⟨tiers.map distinct⟩

/-- The list without tiers. -/
def empty : FeatureList := ⟨[]⟩

/-- The highest-priority tier; empty when there is no tier. -/
def topTier (list : FeatureList) : List Feature :=
  list.tiers.headD []

/-- Some tier holds the feature. -/
def contains (list : FeatureList) (feature : Feature) : Bool :=
  list.tiers.any (fun tier => decide (feature ∈ tier))

/-- The number of tiers that hold the feature. -/
def count (list : FeatureList) (feature : Feature) : Nat :=
  list.tiers.countP (fun tier => decide (feature ∈ tier))

/-- Puts a feature in front of the top tier, unless the top tier holds it already. -/
def withTopPriority (list : FeatureList) (feature : Feature) : FeatureList :=
  match list.tiers with
  | [] => ⟨[[feature]]⟩
  | top :: lower => if feature ∈ top then list else ⟨(feature :: top) :: lower⟩

/-- The features of the first `level` tiers, each once. -/
def effective (list : FeatureList) (level : Nat) : List Feature :=
  distinct (list.tiers.take level).flatten

/-- The tiers in diagnostic output, names unquoted. -/
def describe (list : FeatureList) : String :=
  let tier (names : List Feature) : String := "[" ++ ", ".intercalate (names.map (·.name)) ++ "]"
  "FeatureList \x7b tiers: [" ++ ", ".intercalate (list.tiers.map tier) ++ "] \x7d"

end FeatureList

end Dimming
