import Dimming.Pattern.Basic
import Dimming.Tree

/-!
# Matching patterns

A pattern is matched against a node and the siblings behind it. Siblings may be passed over; an
anchored pattern passes over anonymous ones only. A match is the list of captured nodes, and matches
that capture the same nodes and stop at the same place count once.

This follows what tree-sitter 0.25 documents of quantifiers, groups, alternations, anchors, negated
fields, supertypes and predicates. All matches are found. The limits that a cursor can be given are left
out, since none is set: on the matches in progress, on the depth, on the range and on the time. So is the
order of the matches, on which the spans of a rule do not depend.
-/

set_option autoImplicit false

namespace Dimming

/-- Captured nodes: the number of the capture and the node, in the order of matching. -/
abbrev Bindings := List (Nat × Node)

namespace Matching

/-- What is left to match: the captures so far, the siblings behind the last matched node, and whether
a repetition goes on, so that the next node must be a neighbour. -/
structure Reached where
  /-- The captures. -/
  bindings : Bindings
  /-- The siblings behind the last matched node. -/
  rest : List Node

/-- Two results capture the same and stop at the same place. -/
def Reached.same (a b : Reached) : Bool :=
  a.rest.length == b.rest.length
    && a.bindings.map (fun entry => (entry.1, entry.2.index))
      == b.bindings.map (fun entry => (entry.1, entry.2.index))

/-- Each result once. -/
def distinctReached (results : List Reached) : List Reached :=
  results.foldl (fun kept result => if kept.any (·.same result) then kept else kept ++ [result]) []

/-- A node passes a test. -/
def passes (test : NodeTest) (label : Label) : Bool :=
  let isKind (kind : String) (named : Bool) : Bool :=
    label.status != .error && label.kind == kind && label.named == named
  match test with
  | .anything => label.status != .error
  | .anyNamed => label.status != .error && label.named
  | .error => label.status == .error
  | .missing none => label.status == .missing
  | .missing (some (kind, named)) => label.status == .missing && isKind kind named
  | .kind kind named => isKind kind named
  | .family family none =>
    label.status != .error && label.named && label.families.contains family
  | .family family (some (kind, named)) => label.families.contains family && isKind kind named

/-- A node meets what a pattern asks of it and of its place among its siblings. -/
def meets (spec : NodeSpec) (node : Node) (behind : List Node) : Bool :=
  passes spec.test node.label
    && (match spec.field with
      | none => true
      | some field => node.label.fields.contains field)
    && spec.absent.all (fun field =>
      node.children.all (fun child => !child.label.fields.contains field))
    && (!spec.last || behind.all (fun sibling => !sibling.label.named))

/-- How far a pattern may look for its first node. -/
inductive Seek where
  /-- The first node has to be the next one. -/
  | here
  /-- Anonymous nodes may be passed over. -/
  | near
  /-- Any nodes may be passed over. -/
  | far
  deriving DecidableEq

/-- The siblings from which a search may start, each with what lies behind it. -/
def candidates (seek : Seek) : List Node → List (Node × List Node)
  | [] => []
  | node :: behind =>
    (node, behind) ::
      match seek with
      | .here => []
      | .near => if node.label.named then [] else candidates seek behind
      | .far => candidates seek behind

/-- Repeats a step: the results after one round or more, where later rounds go on at neighbours. -/
def rounds (step : Seek → Reached → List Reached) : Nat → Seek → List Reached → List Reached
  | 0, _, results => results
  | fuel + 1, seek, results =>
    let next := distinctReached (results.flatMap (step seek))
    let forward := next.filter (fun result => results.all (fun old => !old.same result))
    if forward.isEmpty then next else distinctReached (next ++ rounds step fuel .near forward)

mutual

/-- The ways to match a pattern against siblings. -/
def run : Pattern → Seek → Reached → List Reached
  | .node spec items, seek, from_ =>
    let seek := if spec.anchored && seek == .far then .near else seek
    (candidates seek from_.rest).flatMap fun (node, behind) =>
      if meets spec node behind then
        let named := spec.captures.map (fun capture => (capture, node))
        let inner := if items.isEmpty then [⟨from_.bindings ++ named, []⟩]
          else runRow items .far ⟨from_.bindings ++ named, node.children⟩
        distinctReached (inner.map (fun result => ⟨result.bindings, behind⟩))
      else []
  | .group items, seek, from_ => runRow items seek from_
  | .choice options, seek, from_ => distinctReached (runChoice options seek from_)
  | .repeated part once, seek, from_ =>
    let many := rounds (fun seek from_ => run part seek from_) (from_.rest.length + 1) seek [from_]
    if once then many else distinctReached (many ++ [from_])
  | .optional part, seek, from_ => distinctReached (run part seek from_ ++ [from_])

/-- The ways to match patterns in a row. -/
def runRow : List Pattern → Seek → Reached → List Reached
  | [], _, from_ => [from_]
  | first :: rest, seek, from_ =>
    distinctReached ((run first seek from_).flatMap (runRow rest .far))

/-- The ways to match one of several patterns. -/
def runChoice : List Pattern → Seek → Reached → List Reached
  | [], _, _ => []
  | first :: rest, seek, from_ => run first seek from_ ++ runChoice rest seek from_

end

mutual

/-- The matches that start at a node or at a node inside of it; the siblings behind the node are
given. -/
def search (pattern : Pattern) (behind : List Node) : Node → List Bindings
  | .mk index label start stop children =>
    (run pattern .here ⟨[], Node.mk index label start stop children :: behind⟩).map (·.bindings)
      ++ searchAll pattern children

/-- The matches that start at one of several siblings or inside of one. -/
def searchAll (pattern : Pattern) : List Node → List Bindings
  | [] => []
  | node :: behind => search pattern behind node ++ searchAll pattern behind

end

end Matching

namespace Predicate

/-- The nodes of a capture. -/
def nodesOf (bindings : Bindings) (capture : Nat) : List Node :=
  bindings.filterMap (fun entry => if entry.1 = capture then some entry.2 else none)

/-- The verdict on tests of several nodes: with `all` each has to agree with `positive`; otherwise one
that agrees is enough, and so is having none that disagrees to the end. -/
def verdict (positive all : Bool) : List Bool → Bool
  | [] => true
  | outcome :: rest =>
    if outcome != positive && all then false
    else if outcome == positive && !all then true
    else verdict positive all rest

/-- The outcomes of comparing two lists of texts pairwise, and whether the lists are equally long. -/
def compare : List (List Char) → List (List Char) → List Bool × Bool
  | [], [] => ([], true)
  | a :: rest, b :: more =>
    let (outcomes, even_) := compare rest more
    (decide (a = b) :: outcomes, even_)
  | _, _ => ([], false)

/-- The predicate holds of captured nodes; `textOf` gives the text of a node. -/
def holds (textOf : Node → List Char) (bindings : Bindings) : Predicate → Bool
  | .equalsText capture value positive all =>
    verdict positive all
      ((nodesOf bindings capture).map (fun node => decide (textOf node = value.toList)))
  | .equalsCapture first second positive all =>
    let texts (capture : Nat) : List (List Char) := (nodesOf bindings capture).map textOf
    let (outcomes, even_) := compare (texts first) (texts second)
    if outcomes.any (fun outcome => outcome != positive && all) then false
    else if outcomes.any (fun outcome => outcome == positive && !all) then true
    else even_
  | .matching capture regex positive all =>
    verdict positive all ((nodesOf bindings capture).map (fun node => regex.occursIn (textOf node)))
  | .among capture values positive =>
    (nodesOf bindings capture).all (fun node =>
      values.any (fun value => decide (textOf node = value.toList)) == positive)
  | .note => true

end Predicate

end Dimming
