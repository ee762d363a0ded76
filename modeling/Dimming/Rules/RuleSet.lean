import Dimming.Rules.Rule

/-!
# Rule sets

A rule set is an ordered sequence of rules. Two sets are equal when they hold the very same rules in
the same order; rules that merely look alike do not count as the same.
-/

set_option autoImplicit false

namespace Dimming

/-- An ordered sequence of rules. -/
structure RuleSet where
  rules : List Rule

namespace RuleSet

/-- The set without rules. -/
def empty : RuleSet := ⟨[]⟩

/-- The identities of the rules, in order. -/
def stamps (set : RuleSet) : List Nat := set.rules.map (·.stamp)

/-- The number of rules. -/
def size (set : RuleSet) : Nat := set.rules.length

/-- There is no rule. -/
def isEmpty (set : RuleSet) : Bool := set.rules.isEmpty

/-- The rules of one set followed by those of another. -/
def concat (first second : RuleSet) : RuleSet := ⟨first.rules ++ second.rules⟩

/-- Two sequences hold the very same rules in the same order. -/
def sameRules (a b : List Rule) : Bool :=
  a.length == b.length && (a.zip b).all (fun pair => pair.1.stamp == pair.2.stamp)

/-- Both sets hold the very same rules in the same order. -/
def same (a b : RuleSet) : Bool := sameRules a.rules b.rules

/-- The rules before a place; there are none to ask for when the place is past the end. -/
def rulesBefore? (set : RuleSet) (stop : Nat) : Option (List Rule) :=
  if stop ≤ set.size then some (set.rules.take stop) else none

/-- The rules from a place on; there are none to ask for when the place is past the end. -/
def rulesFrom? (set : RuleSet) (start : Nat) : Option (List Rule) :=
  if start ≤ set.size then some (set.rules.drop start) else none

/-- The place that leaves a number of rules behind it, when there are as many. -/
def placeBefore? (set : RuleSet) (count : Nat) : Option Nat :=
  if count ≤ set.size then some (set.size - count) else none

/-- Compares the first rules of a set with those of another; there is no answer when rules are asked for
that are not there. -/
def startsWith? (set front : RuleSet) : Option Bool :=
  if front.size ≤ set.size then
    (set.rulesBefore? front.size).map (fun first => sameRules first front.rules)
  else some false

/-- Compares the last rules of a set with those of another; there is no answer when rules are asked for
that are not there. -/
def endsWith? (set back : RuleSet) : Option Bool :=
  if back.size ≤ set.size then
    (set.placeBefore? back.size).bind fun start =>
      (set.rulesFrom? start).map (fun last => sameRules last back.rules)
  else some false

/-- The first rules of a set are exactly the rules of another. -/
def startsWith (set front : RuleSet) : Bool := set.startsWith? front == some true

/-- The last rules of a set are exactly the rules of another. -/
def endsWith (set back : RuleSet) : Bool := set.endsWith? back == some true

/-- The number of rules with a feature. -/
def countFeature (set : RuleSet) (feature : Feature) : Nat :=
  set.rules.countP (fun rule => decide (rule.feature = feature))

/-- The set in diagnostic output. -/
def describe (set : RuleSet) : String :=
  "[" ++ ", ".intercalate (set.rules.map Rule.describe) ++ "]"

/-- Compiles entries in order; fails with the first one that does not compile. -/
def compile (compiler : Compiler) (language : Language) (feature : Feature) (default : Style) :
    Supply → List Entry → Except LanguageError (RuleSet × Supply)
  | supply, [] => .ok (empty, supply)
  | supply, entry :: rest =>
    match Rule.compile compiler supply language feature default entry with
    | .error cause => .error cause
    | .ok (rule, supply) =>
      match compile compiler language feature default supply rest with
      | .error cause => .error cause
      | .ok (set, supply) => .ok (⟨rule :: set.rules⟩, supply)

end RuleSet

end Dimming
