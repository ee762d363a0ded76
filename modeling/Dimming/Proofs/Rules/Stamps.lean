import Dimming.Proofs.Rules.Built
import Mathlib.Data.List.Nodup

/-!
# The identities of compiled rules

A supply hands out its stamps in order, one for each rule that is compiled. So no two rules that are
compiled one after the other have one stamp, not even when they are compiled from the same entry and are
alike in all else.
-/

set_option autoImplicit false

namespace Dimming

/-- Two rules that differ in nothing but, perhaps, their identity. -/
def Rule.Alike (rule other : Rule) : Prop := { other with stamp := rule.stamp } = rule

/-- Two sets without a rule in common. -/
def RuleSet.Apart (set other : RuleSet) : Prop :=
  ∀ rule ∈ set.rules, ∀ mate ∈ other.rules, rule.stamp ≠ mate.stamp

/-- Rules that stem from one entry are alike. -/
theorem StemsFrom.alike {compiler : Compiler} {language : Language} {feature : Feature}
    {default : Style} {entry : Entry} {rule other : Rule}
    (h : StemsFrom compiler language feature default entry rule)
    (hother : StemsFrom compiler language feature default entry other) : rule.Alike other := by
  have hcompiled : other.compiled = rule.compiled :=
    Except.ok.inj (hother.compiled_eq.symm.trans h.compiled_eq)
  unfold Rule.Alike
  rw [hother.pattern_eq, hother.style_eq, hother.feature_eq, hother.language_eq, hcompiled,
    ← h.pattern_eq, ← h.style_eq, ← h.feature_eq, ← h.language_eq]

/-- Rules that stem from the same entries are alike. -/
theorem alike_of_stemsFrom {compiler : Compiler} {language : Language} {feature : Feature}
    {default : Style} {entries : List Entry} {rules mates : List Rule}
    (h : List.Forall₂ (StemsFrom compiler language feature default) entries rules)
    (hmates : List.Forall₂ (StemsFrom compiler language feature default) entries mates) :
    List.Forall₂ Rule.Alike rules mates := by
  induction h generalizing mates with
  | nil =>
    cases hmates
    exact .nil
  | cons hrule _ ih =>
    cases hmates with
    | cons hmate hmates => exact .cons (hrule.alike hmate) (ih hmates)

section Compile

variable {compiler : Compiler} {language : Language} {feature : Feature} {default : Style}
  {supply after : Supply} {entries : List Entry} {set : RuleSet}

/-- A compiled rule has the next stamp. -/
theorem Rule.stamp_of_compile {entry : Entry} {rule : Rule}
    (h : Rule.compile compiler supply language feature default entry = .ok (rule, after)) :
    rule.stamp = supply.next ∧ after.next = supply.next + 1 := by
  unfold Rule.compile at h
  split at h
  · cases h
  · cases h
    exact ⟨rfl, rfl⟩

/-- The stamps of a compiled set are those that the supply hands out next. -/
theorem RuleSet.stamps_of_compile
    (h : RuleSet.compile compiler language feature default supply entries = .ok (set, after)) :
    set.stamps = List.range' supply.next entries.length ∧
      after.next = supply.next + entries.length := by
  induction entries generalizing supply set with
  | nil =>
    cases h
    exact ⟨rfl, rfl⟩
  | cons entry rest ih =>
    rw [RuleSet.compile] at h
    split at h
    · cases h
    · next rule middle hrule =>
      obtain ⟨hstamp, hmiddle⟩ := Rule.stamp_of_compile hrule
      split at h
      · cases h
      · next others last hothers =>
        cases h
        obtain ⟨hstamps, hlast⟩ := ih hothers
        rw [hmiddle] at hstamps hlast
        rw [List.length_cons, List.range'_succ]
        refine ⟨congrArg₂ List.cons hstamp hstamps, ?_⟩
        omega

/-- No stamp is given to two rules of a compiled set. -/
theorem RuleSet.nodup_stamps_of_compile
    (h : RuleSet.compile compiler language feature default supply entries = .ok (set, after)) :
    set.stamps.Nodup := by
  rw [(RuleSet.stamps_of_compile h).1]
  exact List.nodup_range'

/-- Sets that are compiled one after the other have no rule in common, whatever they are compiled from. -/
theorem RuleSet.apart_of_compile
    (h : RuleSet.compile compiler language feature default supply entries = .ok (set, after))
    {otherCompiler : Compiler} {otherLanguage : Language} {otherFeature : Feature}
    {otherDefault : Style} {later last : Supply} {others : List Entry} {other : RuleSet}
    (hlater : after.next ≤ later.next)
    (hother : RuleSet.compile otherCompiler otherLanguage otherFeature otherDefault later others =
      .ok (other, last)) : set.Apart other := by
  obtain ⟨hstamps, hafter⟩ := RuleSet.stamps_of_compile h
  obtain ⟨hmates, -⟩ := RuleSet.stamps_of_compile hother
  intro rule hrule mate hmate hsame
  have hearly : rule.stamp ∈ List.range' supply.next entries.length :=
    hstamps ▸ List.mem_map_of_mem hrule
  have hlate : mate.stamp ∈ List.range' later.next others.length :=
    hmates ▸ List.mem_map_of_mem hmate
  rw [List.mem_range'_1] at hearly hlate
  omega

/-- What was compiled once can be compiled again, with any supply; the rules are alike, one by one. -/
theorem RuleSet.exists_twin
    (h : RuleSet.compile compiler language feature default supply entries = .ok (set, after))
    (later : Supply) :
    ∃ twin last, RuleSet.compile compiler language feature default later entries = .ok (twin, last) ∧
      List.Forall₂ Rule.Alike set.rules twin.rules := by
  have hstems : List.Forall₂ (StemsFrom compiler language feature default) entries set.rules := by
    rcases RuleSet.compile_cases compiler language feature default supply entries with
      ⟨first, middle, hset, hstems⟩ | ⟨entry, fault, -, herror⟩
    · cases h.symm.trans hset
      exact hstems
    · cases h.symm.trans herror
  rcases RuleSet.compile_cases compiler language feature default later entries with
    ⟨twin, last, htwin, hmates⟩ | ⟨entry, fault, hfault, -⟩
  · exact ⟨twin, last, htwin, alike_of_stemsFrom hstems hmates⟩
  · -- the entries all compiled before, so none of them is faulty
    obtain ⟨entry, hentry, hnot⟩ := hfault.exists_not_compiles
    exact absurd (compiles_of_stemsFrom hstems entry hentry) hnot

end Compile

end Dimming
