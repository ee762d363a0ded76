import Dimming.Pattern.Query
import Mathlib.Tactic.Common

/-!
# What patterns capture

A search looks at the nodes that it is given and at the nodes inside of them, and at no others. So what
a query captures always lies among these. The argument follows the search: every step of it goes from
results that stay among the nodes to results that stay among them.
-/

set_option autoImplicit false

namespace Dimming

/-- A node is one of some nodes or lies inside of one. -/
inductive Node.Inside (nodes : List Node) : Node → Prop where
  | root {node : Node} (h : node ∈ nodes) : Inside nodes node
  | child {parent node : Node} (h : Inside nodes parent) (hmem : node ∈ parent.children) :
      Inside nodes node

namespace Matching

/-- A property of nodes that passes from a node to those directly inside. -/
def Closed (P : Node → Prop) : Prop := ∀ node, P node → ∀ child ∈ node.children, P child

/-- All that a result captures, and all that is left behind it, has a property. -/
structure Reached.Among (P : Node → Prop) (reached : Reached) : Prop where
  bindings : ∀ entry ∈ reached.bindings, P entry.2
  rest : ∀ node ∈ reached.rest, P node

variable {P : Node → Prop}

/-- Counting results once brings no new ones. -/
theorem mem_of_mem_distinctReached {results : List Reached} {result : Reached}
    (h : result ∈ distinctReached results) : result ∈ results := by
  have hfold : ∀ (more kept : List Reached),
      result ∈ more.foldl
        (fun kept result => if kept.any (·.same result) then kept else kept ++ [result]) kept →
      result ∈ kept ∨ result ∈ more := by
    intro more
    induction more with
    | nil => exact fun kept hmem => Or.inl hmem
    | cons next more ih =>
      intro kept hmem
      rw [List.foldl_cons] at hmem
      rcases ih _ hmem with hkept | hmore
      · split at hkept
        · exact Or.inl hkept
        · rcases List.mem_append.mp hkept with hkept | hnext
          · exact Or.inl hkept
          · rw [List.mem_singleton.mp hnext]
            exact Or.inr List.mem_cons_self
      · exact Or.inr (List.mem_cons_of_mem _ hmore)
  rcases hfold results [] h with hnil | hmem
  · cases hnil
  · exact hmem

/-- A search starts from one of the siblings and goes on at siblings. -/
theorem mem_of_mem_candidates {seek : Seek} {siblings : List Node} {node : Node}
    {behind : List Node} (h : (node, behind) ∈ candidates seek siblings) :
    node ∈ siblings ∧ ∀ sibling ∈ behind, sibling ∈ siblings := by
  induction siblings with
  | nil => cases h
  | cons first rest ih =>
    have hlater : (node, behind) ∈ candidates seek rest →
        node ∈ first :: rest ∧ ∀ sibling ∈ behind, sibling ∈ first :: rest := by
      intro hmem
      obtain ⟨hnode, hbehind⟩ := ih hmem
      exact ⟨List.mem_cons_of_mem _ hnode, fun s hs => List.mem_cons_of_mem _ (hbehind s hs)⟩
    rcases List.mem_cons.mp h with heq | hmem
    · cases heq
      exact ⟨List.mem_cons_self, fun s hs => List.mem_cons_of_mem _ hs⟩
    · cases seek with
      | here => cases hmem
      | near =>
        simp only at hmem
        split at hmem
        · cases hmem
        · exact hlater hmem
      | far => exact hlater hmem

/-- Repeating a step stays among the nodes when each step does. -/
theorem among_rounds {step : Seek → Reached → List Reached}
    (hstep : ∀ seek from_, from_.Among P → ∀ result ∈ step seek from_, result.Among P)
    (fuel : Nat) (seek : Seek) (results : List Reached)
    (h : ∀ result ∈ results, result.Among P) :
    ∀ result ∈ rounds step fuel seek results, result.Among P := by
  induction fuel generalizing seek results with
  | zero => exact h
  | succ fuel ih =>
    have hnext : ∀ result ∈ distinctReached (results.flatMap (step seek)), result.Among P := by
      intro result hmem
      obtain ⟨from_, hfrom, hresult⟩ := List.mem_flatMap.mp (mem_of_mem_distinctReached hmem)
      exact hstep seek from_ (h from_ hfrom) result hresult
    intro result hmem
    rw [rounds] at hmem
    split at hmem
    · exact hnext result hmem
    · rcases List.mem_append.mp (mem_of_mem_distinctReached hmem) with hmem | hmem
      · exact hnext result hmem
      · refine ih .near _ ?_ result hmem
        intro forward hforward
        exact hnext forward (List.mem_filter.mp hforward).1

mutual

/-- Matching a pattern stays among the nodes. -/
theorem among_run (hclosed : Closed P) :
    ∀ (pattern : Pattern) (seek : Seek) (from_ : Reached), from_.Among P →
      ∀ result ∈ run pattern seek from_, result.Among P
  | .node spec items, seek, from_, h => by
    intro result hmem
    rw [run] at hmem
    obtain ⟨⟨node, behind⟩, hcandidate, hmem⟩ := List.mem_flatMap.mp hmem
    obtain ⟨hnode, hbehind⟩ := mem_of_mem_candidates hcandidate
    simp only at hmem
    split at hmem
    · obtain ⟨inner, hinner, rfl⟩ := List.mem_map.mp (mem_of_mem_distinctReached hmem)
      have hnamed : ∀ entry ∈ from_.bindings ++ spec.captures.map (fun capture => (capture, node)),
          P entry.2 := by
        intro entry hentry
        rcases List.mem_append.mp hentry with hentry | hentry
        · exact h.bindings entry hentry
        · obtain ⟨capture, -, rfl⟩ := List.mem_map.mp hentry
          exact h.rest node hnode
      refine ⟨?_, fun sibling hsibling => h.rest sibling (hbehind sibling hsibling)⟩
      split at hinner
      · rw [List.mem_singleton.mp hinner]
        exact hnamed
      · -- what is inside of the node is searched with all captures so far
        exact (among_runRow hclosed items .far _ ⟨hnamed, hclosed node (h.rest node hnode)⟩ inner
          hinner).bindings
    · cases hmem
  | .group items, seek, from_, h => by
    intro result hmem
    rw [run] at hmem
    exact among_runRow hclosed items seek from_ h result hmem
  | .choice options, seek, from_, h => by
    intro result hmem
    rw [run] at hmem
    exact among_runChoice hclosed options seek from_ h result (mem_of_mem_distinctReached hmem)
  | .repeated part once, seek, from_, h => by
    intro result hmem
    have hmany := among_rounds (fun seek from_ => among_run hclosed part seek from_)
      (from_.rest.length + 1) seek [from_] (fun one hone => List.mem_singleton.mp hone ▸ h)
    rw [run] at hmem
    split at hmem
    · exact hmany result hmem
    · rcases List.mem_append.mp (mem_of_mem_distinctReached hmem) with hmem | hmem
      · exact hmany result hmem
      · rw [List.mem_singleton.mp hmem]
        exact h
  | .optional part, seek, from_, h => by
    intro result hmem
    rw [run] at hmem
    rcases List.mem_append.mp (mem_of_mem_distinctReached hmem) with hmem | hmem
    · exact among_run hclosed part seek from_ h result hmem
    · rw [List.mem_singleton.mp hmem]
      exact h

/-- Matching patterns in a row stays among the nodes. -/
theorem among_runRow (hclosed : Closed P) :
    ∀ (items : List Pattern) (seek : Seek) (from_ : Reached), from_.Among P →
      ∀ result ∈ runRow items seek from_, result.Among P
  | [], seek, from_, h => by
    intro result hmem
    rw [runRow] at hmem
    rw [List.mem_singleton.mp hmem]
    exact h
  | first :: rest, seek, from_, h => by
    intro result hmem
    rw [runRow] at hmem
    obtain ⟨middle, hmiddle, hmem⟩ := List.mem_flatMap.mp (mem_of_mem_distinctReached hmem)
    have hamong := among_run hclosed first seek from_ h middle hmiddle
    exact among_runRow hclosed rest .far middle hamong result hmem

/-- Matching one of several patterns stays among the nodes. -/
theorem among_runChoice (hclosed : Closed P) :
    ∀ (options : List Pattern) (seek : Seek) (from_ : Reached), from_.Among P →
      ∀ result ∈ runChoice options seek from_, result.Among P
  | [], seek, from_, h => by
    intro result hmem
    rw [runChoice] at hmem
    cases hmem
  | first :: rest, seek, from_, h => by
    intro result hmem
    rw [runChoice] at hmem
    rcases List.mem_append.mp hmem with hmem | hmem
    · exact among_run hclosed first seek from_ h result hmem
    · exact among_runChoice hclosed rest seek from_ h result hmem

end

mutual

/-- A search at a node captures nodes with the property when the node and its siblings behind it have
it. -/
theorem among_search (hclosed : Closed P) (pattern : Pattern) (behind : List Node)
    (hbehind : ∀ sibling ∈ behind, P sibling) :
    ∀ node : Node, P node → ∀ bindings ∈ search pattern behind node, ∀ entry ∈ bindings, P entry.2
  | .mk index label start stop children, h => by
    intro bindings hmem
    rw [search] at hmem
    rcases List.mem_append.mp hmem with hmem | hmem
    · obtain ⟨result, hresult, rfl⟩ := List.mem_map.mp hmem
      refine (among_run hclosed pattern .here _ ⟨?_, ?_⟩ result hresult).bindings
      · intro entry hentry
        cases hentry
      · intro sibling hsibling
        rcases List.mem_cons.mp hsibling with rfl | hsibling
        · exact h
        · exact hbehind sibling hsibling
    · exact among_searchAll hclosed pattern children (hclosed _ h) bindings hmem

/-- A search at several siblings captures nodes with the property when all of them have it. -/
theorem among_searchAll (hclosed : Closed P) (pattern : Pattern) :
    ∀ nodes : List Node, (∀ node ∈ nodes, P node) →
      ∀ bindings ∈ searchAll pattern nodes, ∀ entry ∈ bindings, P entry.2
  | [], h => by
    intro bindings hmem
    rw [searchAll] at hmem
    cases hmem
  | node :: behind, h => by
    intro bindings hmem
    have hbehind : ∀ sibling ∈ behind, P sibling :=
      fun sibling hsibling => h sibling (List.mem_cons_of_mem _ hsibling)
    rw [searchAll] at hmem
    rcases List.mem_append.mp hmem with hmem | hmem
    · exact among_search hclosed pattern behind hbehind node (h node List.mem_cons_self) bindings
        hmem
    · exact among_searchAll hclosed pattern behind hbehind bindings hmem

end

end Matching

/-- What a query captures below some nodes is one of them or lies inside of one. -/
theorem Query.inside_of_mem_captured {query : Query} {textOf : Node → List Char} {capture : Nat}
    {nodes : List Node} {node : Node} (h : node ∈ query.captured textOf capture nodes) :
    Node.Inside nodes node := by
  have hclosed : Matching.Closed (Node.Inside nodes) :=
    fun parent hparent child hchild => .child hparent hchild
  obtain ⟨top, -, hmem⟩ := List.mem_flatMap.mp h
  obtain ⟨bindings, hbindings, hmem⟩ := List.mem_flatMap.mp hmem
  split at hmem
  · obtain ⟨entry, hentry, hsome⟩ := List.mem_filterMap.mp hmem
    split at hsome
    · cases hsome
      exact Matching.among_searchAll hclosed top.pattern nodes (fun node hnode => .root hnode)
        bindings hbindings entry hentry
    · cases hsome
  · cases hmem

end Dimming
