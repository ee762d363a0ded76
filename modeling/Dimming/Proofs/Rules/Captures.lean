import Dimming.Proofs.Patterns.Appended
import Dimming.Proofs.Patterns.Fitting
import Dimming.Proofs.Rules.Built
import Dimming.Proofs.Settings.Mapping

/-!
# What a rule marks

A rule is compiled from a text with a capture behind it, and the capture is known to the rule by its name
only. So a text that names a capture the same way has two of them: what it names itself is marked as well
as what it matches first, and when the text ends in a comment, the capture behind it is gone and only what
the text names itself is marked. A text that names no such capture ends outside of comments if it is
accepted, and then what it matches first is marked and nothing else.
-/

set_option autoImplicit false

namespace Dimming

open PatternReader Matching

/-- The matches of a rule in the tree of a text, as far as its predicates hold. -/
def Rule.found (rule : Rule) (tree : Tree) (text : List Char) : List Bindings :=
  let textOf (node : Node) : List Char := Text.byteSlice text node.start node.stop
  rule.compiled.query.patterns.flatMap fun top =>
    (searchAll top.pattern tree.nodes).filter fun bindings =>
      top.predicates.all (Predicate.holds textOf bindings)

/-- The nodes of a capture are those that it is bound to. -/
theorem Predicate.mem_nodesOf {bindings : Bindings} {capture : Nat} {node : Node} :
    node ∈ Predicate.nodesOf bindings capture ↔ (capture, node) ∈ bindings := by
  rw [Predicate.nodesOf, List.mem_filterMap]
  constructor
  · rintro ⟨⟨number, other⟩, hentry, hsome⟩
    split at hsome
    · rename_i heq
      cases hsome
      exact heq ▸ hentry
    · cases hsome
  · intro h
    exact ⟨_, h, if_pos rfl⟩

/-- The ranges of a rule are those of the nodes that its capture is bound to in some match. -/
theorem Rule.mem_ranges {rule : Rule} {tree : Tree} {text : List Char} {range : Nat × Nat} :
    range ∈ rule.ranges tree text ↔ ∃ bindings ∈ rule.found tree text, ∃ node,
      (rule.capture, node) ∈ bindings ∧ range = (node.start, node.stop) := by
  rw [Rule.ranges, List.mem_map]
  constructor
  · rintro ⟨node, hnode, rfl⟩
    obtain ⟨top, htop, hnode⟩ := List.mem_flatMap.mp hnode
    obtain ⟨bindings, hbindings, hnode⟩ := List.mem_flatMap.mp hnode
    split at hnode
    · rename_i hholds
      exact ⟨bindings, List.mem_flatMap.mpr ⟨top, htop, List.mem_filter.mpr ⟨hbindings, hholds⟩⟩,
        node, Predicate.mem_nodesOf.mp hnode, rfl⟩
    · cases hnode
  · rintro ⟨bindings, hfound, node, hnode, rfl⟩
    obtain ⟨top, htop, hbindings⟩ := List.mem_flatMap.mp hfound
    obtain ⟨hbindings, hholds⟩ := List.mem_filter.mp hbindings
    refine ⟨node, List.mem_flatMap.mpr ⟨top, htop, List.mem_flatMap.mpr ⟨bindings, hbindings, ?_⟩⟩, rfl⟩
    rw [if_pos hholds]
    exact Predicate.mem_nodesOf.mpr hnode

/-- What a compiled text is made of: the one pattern that the text alone holds, with the capture behind
it or, when the text ends in a comment, without. -/
structure MadeOf (language : Language) (text : List Char) (own : Top) (names : List String)
    (compiled : Compiled) : Prop where
  /-- The text alone holds one pattern. -/
  reads : read language.vocabulary text = .ok ([own], names)
  /-- The capture names what the pattern matches first. -/
  captured (hclosed : leavesComment text = false) : ∃ predicates,
    own.calls.mapM (Predicate.ofCall (withName names ruleCapture)) = .ok predicates ∧
    compiled = ⟨⟨[⟨own.pattern.mapFirst (NodeSpec.addCapture (numberIn names ruleCapture)),
      predicates⟩], withName names ruleCapture⟩, numberIn names ruleCapture⟩
  /-- The comment has swallowed the capture, and the text has one of that name. -/
  swallowed (hopen : leavesComment text = true) : ruleCapture ∈ names ∧ ∃ predicates,
    own.calls.mapM (Predicate.ofCall names) = .ok predicates ∧
    compiled = ⟨⟨[⟨own.pattern, predicates⟩], names⟩, numberIn names ruleCapture⟩

/-- A name that is found has the number that it is found under. -/
theorem numberIn_of_findIdx? {captures : List String} {name : String} {index : Nat}
    (h : captures.findIdx? (· == name) = some index) :
    name ∈ captures ∧ numberIn captures name = index := by
  have hcontains := contains_of_findIdx? captures name
  rw [h, Option.isSome_some] at hcontains
  exact ⟨List.contains_iff_mem.mp hcontains, by rw [numberIn, h]; rfl⟩

/-- Adding a name leaves its number. -/
theorem numberIn_withName (captures : List String) (name : String) :
    numberIn (withName captures name) name = numberIn captures name :=
  (numberIn_of_findIdx? (findIdx?_withName captures name)).2

/-- A name whose number is one of the names is among them. -/
theorem mem_of_numberIn_lt {captures : List String} {name : String}
    (h : numberIn captures name < captures.length) : name ∈ captures := by
  cases hfound : captures.findIdx? (· == name) with
  | none =>
    rw [numberIn, hfound] at h
    exact absurd h (Nat.lt_irrefl _)
  | some index => exact (numberIn_of_findIdx? hfound).1

/-- The only pattern of a query and its predicates. -/
theorem compileTop_of_mapM {source : List Char} {names : List String} {found : List Top}
    {patterns : List CompiledPattern}
    (h : found.mapM (Query.compileTop source names) = .ok patterns) (hone : patterns.length = 1) :
    ∃ top predicates, found = [top] ∧ patterns = [⟨top.pattern, predicates⟩] ∧
      top.calls.mapM (Predicate.ofCall names) = .ok predicates := by
  obtain ⟨results, hresults, hall⟩ | ⟨-, -, -, cause, -, -, -, herror⟩ :=
    mapM_cases (Query.compileTop source names) found
  · cases hresults.symm.trans h
    obtain ⟨compiled, rfl⟩ := List.length_eq_one_iff.mp hone
    obtain ⟨top, rfl⟩ := List.length_eq_one_iff.mp (hall.length_eq.trans hone)
    obtain ⟨hcompiled, -⟩ := List.forall₂_cons.mp hall
    rw [Query.compileTop] at hcompiled
    split at hcompiled
    · cases hcompiled
    · rename_i predicates hpredicates
      cases hcompiled
      exact ⟨top, predicates, rfl, rfl, hpredicates⟩
  · cases herror.symm.trans h

/-- A pattern that compiles is made of what stands in its text. -/
theorem exists_madeOf {language : Language} {pattern : String} {compiled : Compiled}
    (h : compilePattern language pattern = .ok compiled) :
    ∃ own names, MadeOf language (Text.trim pattern.toList) own names compiled := by
  unfold compilePattern at h
  split at h
  · cases h
  rename_i query hquery
  split at h
  · cases h
  rename_i hone
  split at h
  · cases h
  rename_i capture hcapture
  cases h
  rw [Query.compile] at hquery
  split at hquery
  · cases hquery
  rename_i found known hread
  split at hquery
  · cases hquery
  split at hquery
  · cases hquery
  rename_i patterns hpatterns
  cases hquery
  obtain ⟨hknown, hnumber⟩ := numberIn_of_findIdx? hcapture
  obtain ⟨top, predicates, rfl, rfl, hpredicates⟩ := compileTop_of_mapM hpatterns (not_not.mp hone)
  obtain ⟨own, names, hown, hholds⟩ := read_append_ruleMark hread hknown
  refine ⟨own, names, ?_⟩
  cases hholds with
  | captured hclosed =>
    refine ⟨hown, fun _ => ⟨predicates, hpredicates, ?_⟩, fun hopen => ?_⟩
    · rw [← hnumber, numberIn_withName]
    · rw [hclosed] at hopen
      cases hopen
  | swallowed hopen =>
    refine ⟨hown, fun hclosed => ?_, fun _ => ⟨hknown, predicates, hpredicates, ?_⟩⟩
    · rw [hopen] at hclosed
      cases hclosed
    · rw [hnumber]

namespace MadeOf

variable {language : Language} {text : List Char} {own : Top} {names : List String} {rule : Rule}

/-- Every match of a rule is told by where the pattern of its text occurs. -/
theorem told (h : MadeOf language text own names rule.compiled) {tree : Tree} {content : List Char}
    {bindings : Bindings} (hfound : bindings ∈ rule.found tree content) :
    ∃ bound roots, Occurs own.pattern tree.nodes bound roots ∧
      Marks (if leavesComment text then none else some rule.capture) own.pattern.HasRoom bound roots
        bindings := by
  obtain ⟨top, htop, hbindings⟩ := List.mem_flatMap.mp hfound
  have hsearch := (List.mem_filter.mp hbindings).1
  cases hends : leavesComment text with
  | false =>
    obtain ⟨predicates, -, hcompiled⟩ := h.captured hends
    rw [hcompiled] at htop
    rw [List.mem_singleton.mp htop] at hsearch
    rw [if_neg Bool.false_ne_true, Rule.capture, hcompiled]
    exact told_searchAll (some _) hsearch
  | true =>
    obtain ⟨-, predicates, -, hcompiled⟩ := h.swallowed hends
    rw [hcompiled] at htop
    rw [List.mem_singleton.mp htop, ← Pattern.mapFirst_id own.pattern] at hsearch
    rw [if_pos rfl]
    exact told_searchAll none hsearch

/-- A rule has the capture that is named for it. -/
theorem capture_eq (h : MadeOf language text own names rule.compiled) :
    rule.capture = numberIn names ruleCapture := by
  cases hends : leavesComment text with
  | false =>
    obtain ⟨predicates, -, hcompiled⟩ := h.captured hends
    rw [Rule.capture, hcompiled]
  | true =>
    obtain ⟨-, predicates, -, hcompiled⟩ := h.swallowed hends
    rw [Rule.capture, hcompiled]

/-- A range that a rule marks is that of a node that its pattern matches first, or of one that the text
itself names as the rule's. -/
theorem of_mem_ranges (h : MadeOf language text own names rule.compiled) {tree : Tree}
    {content : List Char} {range : Nat × Nat} (hrange : range ∈ rule.ranges tree content) :
    ∃ bound roots node, Occurs own.pattern tree.nodes bound roots ∧ range = (node.start, node.stop) ∧
      (leavesComment text = false ∧ node ∈ roots ∨
        ruleCapture ∈ names ∧ (rule.capture, node) ∈ bound) := by
  obtain ⟨bindings, hfound, node, hnode, rfl⟩ := Rule.mem_ranges.mp hrange
  obtain ⟨bound, roots, hoccurs, hmarks⟩ := h.told hfound
  refine ⟨bound, roots, node, hoccurs, rfl, ?_⟩
  obtain hbound | ⟨hmark, hroot⟩ := hmarks.only _ hnode
  · refine Or.inr ⟨?_, hbound⟩
    -- the text binds what it names, and nothing else has the number of its captures
    obtain ⟨siblings, behind, -, hfits⟩ := hoccurs
    have hlimit := hfits.lt_of_mem (below_of_read h.reads own List.mem_cons_self) _ hbound
    exact mem_of_numberIn_lt (h.capture_eq ▸ hlimit)
  · cases hends : leavesComment text with
    | false => exact Or.inl ⟨rfl, hroot⟩
    | true =>
      rw [hends, if_pos rfl] at hmark
      cases hmark

end MadeOf

end Dimming

namespace Dimming.Proofs.RuleMarks

open PatternReader Matching

/-- A text that is accepted as a rule holds one pattern, and its rule is made of this pattern. The ranges
that the rule marks are those of nodes that the pattern matches first, and those of nodes that the text
itself names as the rule's; the latter alone when the text ends in a comment. Outside of comments each
match marks all that the pattern matches first, if that can be given one more name. A text that ends in a
comment without naming such nodes itself is refused. -/
theorem accepted_rules_mark_matches (supply : Supply) (language : Language) (feature : Feature)
    (default : Style) (entry : Entry) :
    let text := Text.trim entry.pattern.toList
    (∀ rule after, Rule.compile compilePattern supply language feature default entry
        = .ok (rule, after) →
      ∃ own names, MadeOf language text own names rule.compiled ∧
        (∀ tree content, ∀ range ∈ rule.ranges tree content, ∃ bound roots node,
          Occurs own.pattern tree.nodes bound roots ∧ range = (node.start, node.stop) ∧
          (leavesComment text = false ∧ node ∈ roots ∨
            ruleCapture ∈ names ∧ (rule.capture, node) ∈ bound)) ∧
        (leavesComment text = false → own.pattern.HasRoom →
          ∀ tree content, ∀ bindings ∈ rule.found tree content, ∃ bound roots,
            Occurs own.pattern tree.nodes bound roots ∧
            Marks (some rule.capture) True bound roots bindings ∧
            ∀ node ∈ roots, (node.start, node.stop) ∈ rule.ranges tree content)) ∧
    (leavesComment text = true →
      (∀ found names, read language.vocabulary text = .ok (found, names) → ruleCapture ∉ names) →
      ∃ fault, Rule.compile compilePattern supply language feature default entry
        = .error (.invalidPattern language entry.pattern fault)) := by
  intro text
  have hcases := Rule.compile_cases compilePattern language feature default supply entry
  constructor
  · intro rule after hcompile
    obtain ⟨made, rest, hmade, hstems⟩ | ⟨fault, -, herror⟩ := hcases
    · cases hmade.symm.trans hcompile
      obtain ⟨own, names, hown⟩ := exists_madeOf hstems.compiled_eq
      refine ⟨own, names, hown, fun tree content range hrange => hown.of_mem_ranges hrange, ?_⟩
      intro hclosed hroom tree content bindings hfound
      obtain ⟨bound, roots, hoccurs, hmarks⟩ := hown.told hfound
      rw [hclosed, if_neg Bool.false_ne_true] at hmarks
      refine ⟨bound, roots, hoccurs, hmarks.of_imp fun _ => hroom, fun node hnode => ?_⟩
      exact Rule.mem_ranges.mpr ⟨bindings, hfound, node, hmarks.all hroom _ rfl node hnode, rfl⟩
    · cases herror.symm.trans hcompile
  · intro hopen hnames
    obtain ⟨rule, after, -, hstems⟩ | ⟨fault, -, herror⟩ := hcases
    · obtain ⟨own, names, hown⟩ := exists_madeOf hstems.compiled_eq
      exact absurd (hown.swallowed hopen).1 (hnames [own] names hown.reads)
    · exact ⟨fault, herror⟩

/-- A text that names a capture as the rule's. -/
def naming : Entry := ⟨"(array (number) @rule)", none⟩

/-- A text that ends in a comment. -/
def commenting : Entry := ⟨"(array) ;", none⟩

/-- An array is marked, and so is the number inside that the text names; a comment is refused. -/
theorem accepted_rules_mark_matches_named :
    (∃ rule after own names,
      Rule.compile compilePattern .initial .json .overlay .deemphasis naming = .ok (rule, after) ∧
      MadeOf .json (Text.trim naming.pattern.toList) own names rule.compiled ∧
      leavesComment (Text.trim naming.pattern.toList) = false ∧ own.pattern.HasRoom ∧
      rule.ranges (Language.json.parse "[1]".toList) "[1]".toList = [(0, 3), (1, 2)] ∧
      ∃ bound roots, Occurs own.pattern (Language.json.parse "[1]".toList).nodes bound roots ∧
        ∀ node ∈ roots, (node.start, node.stop) ∈ [(0, 3), (1, 2)]) ∧
    leavesComment (Text.trim commenting.pattern.toList) = true ∧
    ∃ fault, Rule.compile compilePattern .initial .json .overlay .deemphasis commenting
      = .error (.invalidPattern .json commenting.pattern fault) := by
  have hclosed : leavesComment (Text.trim naming.pattern.toList) = false := by decide +kernel
  have hopen : leavesComment (Text.trim commenting.pattern.toList) = true := by decide +kernel
  have hmade : (Rule.compile compilePattern .initial .json .overlay .deemphasis naming).toOption.map
      (fun made => ((made.1.found (Language.json.parse "[1]".toList) "[1]".toList).length,
        made.1.ranges (Language.json.parse "[1]".toList) "[1]".toList))
      = some (1, [(0, 3), (1, 2)]) := by decide +kernel
  have hroom : (read Language.json.vocabulary (Text.trim naming.pattern.toList)).toOption.map
      (fun found => found.1.map fun top => top.pattern.firstSpecs.map (·.captures))
      = some [[[]]] := by decide +kernel
  have hnames : (read Language.json.vocabulary (Text.trim commenting.pattern.toList)).toOption.map
      (·.2) = some [] := by decide +kernel
  refine ⟨?_, hopen, (accepted_rules_mark_matches .initial .json .overlay .deemphasis commenting).2 hopen
    fun found names hread hknown => ?_⟩
  · cases hcompile : Rule.compile compilePattern .initial .json .overlay .deemphasis naming with
    | error cause =>
      rw [hcompile] at hmade
      cases hmade
    | ok made =>
      rw [hcompile] at hmade
      obtain ⟨hfound, hranges⟩ := Prod.mk.inj (Option.some.inj hmade)
      obtain ⟨own, names, hown, -, hmarks⟩ :=
        (accepted_rules_mark_matches .initial .json .overlay .deemphasis naming).1 made.1 made.2 hcompile
      rw [hown.reads] at hroom
      have hspecs : own.pattern.firstSpecs.map (·.captures) = [[]] :=
        (List.cons.inj (Option.some.inj hroom)).1
      have hroomy : own.pattern.HasRoom := by
        intro spec hspec
        have hnone := List.mem_map_of_mem (f := (·.captures)) hspec
        rw [hspecs] at hnone
        rw [List.mem_singleton.mp hnone]
        decide
      obtain ⟨bindings, hbindings⟩ := List.length_eq_one_iff.mp hfound
      obtain ⟨bound, roots, hoccurs, -, hroots⟩ :=
        hmarks hclosed hroomy _ _ bindings (by rw [hbindings]; exact List.mem_cons_self)
      rw [hranges] at hroots
      exact ⟨made.1, made.2, own, names, rfl, hown, hclosed, hroomy, hranges, bound, roots, hoccurs,
        hroots⟩
  · rw [hread] at hnames
    have hnone : names = [] := Option.some.inj hnames
    rw [hnone] at hknown
    cases hknown

/-- A text that names a capture as the rule's and ends in a comment. -/
def swallowing : Entry := ⟨"(array (number) @rule) ;", none⟩

/-- The text swallows the capture behind it and is accepted all the same. What its pattern matches first
has no name, and the number inside is marked instead of the array. -/
theorem swallowed_capture_is_accepted :
    leavesComment (Text.trim swallowing.pattern.toList) = true ∧
    ∃ rule after, Rule.compile compilePattern .initial .json .overlay .deemphasis swallowing
        = .ok (rule, after) ∧
      rule.compiled.query.patterns.map
          (fun top => top.pattern.firstSpecs.map (fun spec => (spec.test, spec.captures)))
        = [[(.kind "array" true, [])]] ∧
      rule.ranges (Language.json.parse "[1]".toList) "[1]".toList = [(1, 2)] := by
  refine ⟨by decide +kernel, ?_⟩
  have hmade : (Rule.compile compilePattern .initial .json .overlay .deemphasis swallowing).toOption.map
      (fun made => (made.1.compiled.query.patterns.map
          (fun top => top.pattern.firstSpecs.map (fun spec => (spec.test, spec.captures))),
        made.1.ranges (Language.json.parse "[1]".toList) "[1]".toList))
      = some ([[(.kind "array" true, [])]], [(1, 2)]) := by decide +kernel
  cases hcompile : Rule.compile compilePattern .initial .json .overlay .deemphasis swallowing with
  | error cause =>
    rw [hcompile] at hmade
    cases hmade
  | ok made =>
    rw [hcompile] at hmade
    obtain ⟨hfirst, hranges⟩ := Prod.mk.inj (Option.some.inj hmade)
    exact ⟨made.1, made.2, rfl, hfirst, hranges⟩

end Dimming.Proofs.RuleMarks
