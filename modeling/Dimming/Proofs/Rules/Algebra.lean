import Dimming.Proofs.Rules.Stamps
import Mathlib.Data.List.Basic

/-!
# Rule sets as sequences of identities

A rule set is compared by the stamps of its rules alone, so all that holds of sequences and their fronts and
backs holds of rule sets. A comparison with a front or a back asks for a part of the set only when the set
is long enough, and so it always has an answer.
-/

set_option autoImplicit false

namespace Dimming.RuleSet

/-! ## Equality -/

/-- Rules are compared one by one, and by their stamps alone. -/
theorem sameRules_iff {a b : List Rule} :
    sameRules a b = true ↔ a.map (·.stamp) = b.map (·.stamp) := by
  induction a generalizing b with
  | nil => cases b <;> simp [sameRules]
  | cons rule a ih =>
    cases b with
    | nil => simp [sameRules]
    | cons mate b =>
      rw [List.map_cons, List.map_cons, List.cons.injEq, ← ih]
      simp only [sameRules, List.length_cons, List.zip_cons_cons, List.all_cons, Bool.and_eq_true,
        beq_iff_eq, Nat.add_right_cancel_iff]
      tauto

/-- Rule sets are the same when their rules are the same ones, in order. -/
theorem same_iff {a b : RuleSet} : a.same b = true ↔ a.stamps = b.stamps := sameRules_iff

/-- A rule set has one stamp for each rule. -/
@[simp]
theorem length_stamps (set : RuleSet) : set.stamps.length = set.size := List.length_map _

/-- The stamps of a concatenation are those of the one set and then those of the other. -/
@[simp]
theorem stamps_concat (first second : RuleSet) :
    (first.concat second).stamps = first.stamps ++ second.stamps := List.map_append

/-- Sets are not the same when rules of different stamps stand at one place. -/
theorem same_eq_false_of_stamp_ne {a b : RuleSet} {place : Nat} {rule mate : Rule}
    (h : a.rules[place]? = some rule) (hmate : b.rules[place]? = some mate)
    (hne : rule.stamp ≠ mate.stamp) : a.same b = false := by
  rw [← Bool.not_eq_true, same_iff]
  intro hsame
  have hplace : a.stamps[place]? = b.stamps[place]? := by rw [hsame]
  rw [stamps, stamps, List.getElem?_map, List.getElem?_map, h, hmate] at hplace
  exact hne (Option.some.inj hplace)

/-- Being the same is an equivalence. -/
theorem equivalence_same : Equivalence (fun a b : RuleSet => a.same b = true) where
  refl _ := same_iff.mpr rfl
  symm h := same_iff.mpr (same_iff.mp h).symm
  trans h hnext := same_iff.mpr ((same_iff.mp h).trans (same_iff.mp hnext))

/-! ## Concatenation -/

/-- Concatenation takes the same sets to the same ones. -/
theorem same_concat {a b other mate : RuleSet} (h : a.same other = true) (hmate : b.same mate = true) :
    (a.concat b).same (other.concat mate) = true := by
  rw [same_iff] at h hmate ⊢
  rw [stamps_concat, stamps_concat, h, hmate]

/-- Concatenation is associative. -/
theorem concat_assoc (a b c : RuleSet) : (a.concat b).concat c = a.concat (b.concat c) :=
  congrArg RuleSet.mk (List.append_assoc _ _ _)

/-- The empty set is neutral on the left. -/
theorem empty_concat (a : RuleSet) : empty.concat a = a := rfl

/-- The empty set is neutral on the right. -/
theorem concat_empty (a : RuleSet) : a.concat empty = a :=
  congrArg RuleSet.mk (List.append_nil _)

/-- A front that two sets share can be left out. -/
theorem same_concat_left (front a b : RuleSet) :
    (front.concat a).same (front.concat b) = a.same b := by
  rw [Bool.eq_iff_iff, same_iff, same_iff, stamps_concat, stamps_concat, List.append_cancel_left_eq]

/-- A back that two sets share can be left out. -/
theorem same_concat_right (back a b : RuleSet) :
    (a.concat back).same (b.concat back) = a.same b := by
  rw [Bool.eq_iff_iff, same_iff, same_iff, stamps_concat, stamps_concat,
    List.append_cancel_right_eq]

/-- The rules of a feature are counted part by part. -/
theorem countFeature_concat (a b : RuleSet) (feature : Feature) :
    (a.concat b).countFeature feature = a.countFeature feature + b.countFeature feature :=
  List.countP_append

/-! ## Fronts and backs -/

/-- A front of the stamps of a set is a front of the set. -/
theorem stamps_prefix_iff {set front : RuleSet} :
    front.stamps <+: set.stamps ↔ ∃ rest, set.same (front.concat rest) = true := by
  constructor
  · rintro ⟨later, hlater⟩
    obtain ⟨first, last, -, -, rfl⟩ := List.map_eq_append_iff.mp hlater.symm
    exact ⟨⟨last⟩, same_iff.mpr (hlater.symm.trans (stamps_concat front ⟨last⟩).symm)⟩
  · rintro ⟨rest, hsame⟩
    rw [same_iff, stamps_concat] at hsame
    exact ⟨rest.stamps, hsame.symm⟩

/-- A back of the stamps of a set is a back of the set. -/
theorem stamps_suffix_iff {set back : RuleSet} :
    back.stamps <:+ set.stamps ↔ ∃ rest : RuleSet, set.same (rest.concat back) = true := by
  constructor
  · rintro ⟨earlier, hearlier⟩
    obtain ⟨first, last, -, rfl, -⟩ := List.map_eq_append_iff.mp hearlier.symm
    exact ⟨⟨first⟩, same_iff.mpr (hearlier.symm.trans (stamps_concat ⟨first⟩ back).symm)⟩
  · rintro ⟨rest, hsame⟩
    rw [same_iff, stamps_concat] at hsame
    exact ⟨rest.stamps, hsame.symm⟩

/-- The comparison with a front has an answer: whether the stamps are a front. -/
theorem exists_startsWith? (set front : RuleSet) :
    ∃ answer, set.startsWith? front = some answer ∧
      (answer = true ↔ front.stamps <+: set.stamps) := by
  unfold startsWith?
  by_cases h : front.size ≤ set.size
  · refine ⟨sameRules (set.rules.take front.size) front.rules, ?_, ?_⟩
    · rw [if_pos h, rulesBefore?, if_pos h, Option.map_some]
    · rw [sameRules_iff, List.map_take, List.prefix_iff_eq_take, length_stamps, eq_comm]
      rfl
  · refine ⟨false, if_neg h, iff_of_false Bool.false_ne_true fun hprefix => h ?_⟩
    simpa using hprefix.length_le

/-- The comparison with a back has an answer: whether the stamps are a back. -/
theorem exists_endsWith? (set back : RuleSet) :
    ∃ answer, set.endsWith? back = some answer ∧
      (answer = true ↔ back.stamps <:+ set.stamps) := by
  unfold endsWith?
  by_cases h : back.size ≤ set.size
  · have hplace : set.size - back.size ≤ set.size := Nat.sub_le _ _
    refine ⟨sameRules (set.rules.drop (set.size - back.size)) back.rules, ?_, ?_⟩
    · rw [if_pos h, placeBefore?, if_pos h, Option.bind_some, rulesFrom?, if_pos hplace,
        Option.map_some]
    · rw [sameRules_iff, List.map_drop, List.suffix_iff_eq_drop, length_stamps, length_stamps,
        eq_comm]
      rfl
  · refine ⟨false, if_neg h, iff_of_false Bool.false_ne_true fun hsuffix => h ?_⟩
    simpa using hsuffix.length_le

/-- The slice that is compared for a front is inside the set. -/
theorem startsWith?_eq (set front : RuleSet) :
    set.startsWith? front = some (set.startsWith front) := by
  obtain ⟨answer, hanswer, -⟩ := exists_startsWith? set front
  rw [startsWith, hanswer]
  cases answer <;> rfl

/-- The slice that is compared for a back is inside the set. -/
theorem endsWith?_eq (set back : RuleSet) : set.endsWith? back = some (set.endsWith back) := by
  obtain ⟨answer, hanswer, -⟩ := exists_endsWith? set back
  rw [endsWith, hanswer]
  cases answer <;> rfl

/-- A set starts with another one when it is a concatenation with it in front. -/
theorem startsWith_iff {set front : RuleSet} :
    set.startsWith front = true ↔ ∃ rest, set.same (front.concat rest) = true := by
  obtain ⟨answer, hanswer, hprefix⟩ := exists_startsWith? set front
  rw [← stamps_prefix_iff, ← hprefix,
    Option.some.inj ((startsWith?_eq set front).symm.trans hanswer)]

/-- A set ends with another one when it is a concatenation with it behind. -/
theorem endsWith_iff {set back : RuleSet} :
    set.endsWith back = true ↔ ∃ rest : RuleSet, set.same (rest.concat back) = true := by
  obtain ⟨answer, hanswer, hsuffix⟩ := exists_endsWith? set back
  rw [← stamps_suffix_iff, ← hsuffix, Option.some.inj ((endsWith?_eq set back).symm.trans hanswer)]

end Dimming.RuleSet

namespace Dimming.Proofs.RuleSetAlgebra

open RuleSet

/-- Rule sets are sequences of identities. A set starts or ends with another exactly when it is the same as
that with something put behind or in front of it, and both comparisons ask for nothing beyond the ends of
the set. To be the same is an equivalence, it is to have the same stamps in order, and concatenation
respects it; concatenation is associative, has the empty set as its unit, cancels on both sides and adds
up the rules of a feature.
The stamps of a compiled set are all different. Whatever is compiled later, from the same entries as well,
has other stamps, though the rules be alike; and sets that hold rules of different stamps at one place
are not the same. -/
theorem rule_set_algebra :
    (∀ set front : RuleSet, set.startsWith front = true ↔
      ∃ rest, set.same (front.concat rest) = true) ∧
    (∀ set back : RuleSet, set.endsWith back = true ↔
      ∃ rest : RuleSet, set.same (rest.concat back) = true) ∧
    (∀ set part : RuleSet, set.startsWith? part = some (set.startsWith part) ∧
      set.endsWith? part = some (set.endsWith part)) ∧
    Equivalence (fun a b : RuleSet => a.same b = true) ∧
    (∀ a b : RuleSet, a.same b = true ↔ a.stamps = b.stamps) ∧
    (∀ a b other mate : RuleSet, a.same other = true → b.same mate = true →
      (a.concat b).same (other.concat mate) = true) ∧
    (∀ a b c : RuleSet, (a.concat b).concat c = a.concat (b.concat c) ∧
      empty.concat a = a ∧ a.concat empty = a ∧
      (c.concat a).same (c.concat b) = a.same b ∧ (a.concat c).same (b.concat c) = a.same b) ∧
    (∀ (a b : RuleSet) (feature : Feature),
      (a.concat b).countFeature feature = a.countFeature feature + b.countFeature feature) ∧
    (∀ compiler language feature default supply entries set after,
      RuleSet.compile compiler language feature default supply entries = .ok (set, after) →
      set.stamps.Nodup ∧ ∀ later : Supply, after.next ≤ later.next →
        (∃ twin last,
          RuleSet.compile compiler language feature default later entries = .ok (twin, last) ∧
          List.Forall₂ Rule.Alike set.rules twin.rules) ∧
        ∀ otherCompiler otherLanguage otherFeature otherDefault others other last,
          RuleSet.compile otherCompiler otherLanguage otherFeature otherDefault later others =
            .ok (other, last) → set.Apart other) ∧
    ∀ (a b : RuleSet) (place : Nat) (rule mate : Rule), a.rules[place]? = some rule →
      b.rules[place]? = some mate → rule.stamp ≠ mate.stamp → a.same b = false := by
  refine ⟨fun _ _ => startsWith_iff, fun _ _ => endsWith_iff,
    fun set part => ⟨startsWith?_eq set part, endsWith?_eq set part⟩, equivalence_same,
    fun _ _ => same_iff, fun _ _ _ _ => same_concat,
    fun a b c => ⟨concat_assoc a b c, empty_concat a, concat_empty a, same_concat_left c a b,
      same_concat_right c a b⟩,
    countFeature_concat, ?_, fun _ _ _ _ _ => same_eq_false_of_stamp_ne⟩
  intro compiler language feature default supply entries set after hset
  refine ⟨nodup_stamps_of_compile hset, fun later hlater => ⟨exists_twin hset later, ?_⟩⟩
  intro otherCompiler otherLanguage otherFeature otherDefault others other last hother
  exact apart_of_compile hset hlater hother

/-- An entry that is compiled twice makes two rules that are alike and yet not the same. -/
theorem rule_set_algebra_twice :
    let compiler : Compiler := fun _ _ => .ok ⟨⟨[], []⟩, 0⟩
    let entries : List Entry := [⟨"(string)", none⟩]
    ∃ set after twin last,
      RuleSet.compile compiler .json .overlay .deemphasis .initial entries = .ok (set, after) ∧
      after.next ≤ after.next ∧
      RuleSet.compile compiler .json .overlay .deemphasis after entries = .ok (twin, last) ∧
      List.Forall₂ Rule.Alike set.rules twin.rules ∧ set.same twin = false ∧
      (set.concat twin).endsWith twin = true := by
  intro compiler entries
  obtain ⟨-, hends, -, -, -, -, -, -, hcompile, hplace⟩ := rule_set_algebra
  obtain ⟨-, hlater⟩ := hcompile compiler .json .overlay .deemphasis .initial entries _ _ rfl
  obtain ⟨⟨twin, last, htwin, halike⟩, hapart⟩ := hlater _ (Nat.le_refl _)
  refine ⟨_, _, twin, last, rfl, Nat.le_refl _, htwin, halike, ?_, ?_⟩
  · have hne := hapart compiler .json .overlay .deemphasis entries twin last htwin
    cases htwin
    exact hplace _ _ 0 _ _ rfl rfl (hne _ List.mem_cons_self _ List.mem_cons_self)
  · exact (hends _ _).mpr ⟨_, same_iff.mpr rfl⟩

end Dimming.Proofs.RuleSetAlgebra
