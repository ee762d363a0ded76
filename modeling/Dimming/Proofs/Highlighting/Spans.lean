import Dimming.Highlight
import Dimming.Proofs.Patterns.Captured

/-!
# Where spans come from

Spans are put together rule by rule, and a span that is already there may give way to a later one of the
same range. Whatever is left at the end is the range of a node that some rule captured, and it is not
empty.
-/

set_option autoImplicit false

namespace Dimming

namespace Span

/-- A span of a list that another was put into is that one or was there before. -/
theorem eq_or_mem_of_mem_insert {span other : Span} {spans : List Span}
    (h : other ∈ insert span spans) : other = span ∨ other ∈ spans := by
  induction spans with
  | nil => exact Or.inl (List.mem_singleton.mp h)
  | cons first rest ih =>
    rw [insert] at h
    split at h
    · exact List.mem_cons.mp h
    · split at h
      · rcases List.mem_cons.mp h with rfl | hmem
        · exact Or.inr List.mem_cons_self
        · exact (ih hmem).imp_right (List.mem_cons_of_mem first)
      · exact (List.mem_cons.mp h).imp_right (List.mem_cons_of_mem first)

/-- A span is the range of one of some ranges, which is not empty. -/
def Marks (ranges : List (Nat × Nat)) (span : Span) : Prop :=
  (span.start, span.stop) ∈ ranges ∧ span.start < span.stop

/-- A span of a list in which ranges were marked marks one of them or was there before. -/
theorem marks_or_mem_of_mem_mark {style : Style} {feature : Feature} {span : Span}
    {ranges : List (Nat × Nat)} {spans : List Span} (h : span ∈ mark style feature spans ranges) :
    span.Marks ranges ∨ span ∈ spans := by
  unfold mark at h
  induction ranges generalizing spans with
  | nil => exact Or.inr h
  | cons range ranges ih =>
    rw [List.foldl_cons] at h
    rcases ih h with ⟨hrange, hlt⟩ | hmem
    · exact Or.inl ⟨List.mem_cons_of_mem range hrange, hlt⟩
    · split at hmem
      · next hlt =>
        rcases eq_or_mem_of_mem_insert hmem with rfl | hmem
        · exact Or.inl ⟨List.mem_cons_self, hlt⟩
        · exact Or.inr hmem
      · exact Or.inr hmem

end Span

namespace Highlight

/-- Every span marks a range of some rule. -/
theorem marks_of_mem_spansOf {state : Highlight} {language : Language}
    {ranges : Rule → List (Nat × Nat)} {span : Span} (h : span ∈ state.spansOf language ranges) :
    ∃ rule, span.Marks (ranges rule) := by
  have hfold : ∀ (rules : List Rule) (spans : List Span),
      span ∈ rules.foldl
        (fun spans rule => Span.mark rule.style rule.feature spans (ranges rule)) spans →
      (∃ rule, span.Marks (ranges rule)) ∨ span ∈ spans := by
    intro rules
    induction rules with
    | nil => exact fun spans hmem => Or.inr hmem
    | cons rule rules ih =>
      intro spans hmem
      rw [List.foldl_cons] at hmem
      rcases ih _ hmem with hmarks | hmem
      · exact Or.inl hmarks
      · exact (Span.marks_or_mem_of_mem_mark hmem).imp_left (fun hmarks => ⟨rule, hmarks⟩)
  rcases hfold _ [] h with hmarks | hnil
  · exact hmarks
  · cases hnil

/-- Every span is the range of a node of the tree, and it is not empty. -/
theorem exists_node_of_mem_spansIn {state : Highlight} {language : Language} {tree : Tree}
    {text : List Char} {span : Span} (h : span ∈ state.spansIn language tree text) :
    ∃ node, Node.Inside tree.nodes node ∧ node.start = span.start ∧ node.stop = span.stop ∧
      span.start < span.stop := by
  obtain ⟨rule, hrange, hlt⟩ := marks_of_mem_spansOf h
  obtain ⟨node, hnode, hends⟩ := List.mem_map.mp hrange
  rw [Prod.mk.injEq] at hends
  exact ⟨node, Query.inside_of_mem_captured hnode, hends.1, hends.2, hlt⟩

end Highlight

end Dimming
