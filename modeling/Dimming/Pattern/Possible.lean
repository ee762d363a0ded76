import Dimming.Grammar.Vocabulary

/-!
# Patterns that a grammar can never match

The patterns inside a node have to fit the nodes that its grammar can put there. The check follows the
forms of the parent and keeps the set of places that the row of patterns may have reached; a node may
always be passed over. A row that cannot be completed is impossible, and the fault is reported at the
furthest pattern that was waited for.

tree-sitter 0.25 refuses such patterns when it analyses a query against the parse tables of a grammar.
Here the forms of the grammar take the place of the tables, and a row is refused as far as the forms
tell. The bounds on the effort of that analysis are left out.
-/

set_option autoImplicit false

namespace Dimming

namespace Possible

/-- One thing that a row of patterns waits for: a node of some test, after which it goes on. -/
structure Wait where
  /-- The place that waits. -/
  source : Nat
  /-- The place behind it. -/
  target : Nat
  /-- What it waits for. -/
  spec : NodeSpec

/-- A row of patterns as places, what they wait for, and the steps that need no node. -/
structure Course where
  /-- The number of places. -/
  size : Nat
  /-- What is waited for. -/
  waits : List Wait
  /-- Steps without a node. -/
  free : List (Nat × Nat)

mutual

/-- Adds a pattern from one place to a new place, which is given back. -/
def addPattern (course : Course) (source : Nat) : Pattern → Nat × Course
  | .node spec _ =>
    let target := course.size
    (target, { course with
      size := target + 1
      waits := course.waits ++ [⟨source, target, spec⟩] })
  | .group items => addRow course source items
  | .choice options =>
    let (ends, course) := addChoices course source options
    let target := course.size
    (target, { course with
      size := target + 1
      free := course.free ++ ends.map (fun stop => (stop, target)) })
  | .repeated part once =>
    let (target, course) := addPattern course source part
    let skipped := if once then [] else [(source, target)]
    (target, { course with free := course.free ++ (target, source) :: skipped })
  | .optional part =>
    let (target, course) := addPattern course source part
    (target, { course with free := course.free ++ [(source, target)] })

/-- Adds patterns in a row. -/
def addRow (course : Course) (source : Nat) : List Pattern → Nat × Course
  | [] => (source, course)
  | first :: rest =>
    let (target, course) := addPattern course source first
    addRow course target rest

/-- Adds patterns side by side. -/
def addChoices (course : Course) (source : Nat) : List Pattern → List Nat × Course
  | [] => ([], course)
  | first :: rest =>
    let (target, course) := addPattern course source first
    let (more, course) := addChoices course source rest
    (target :: more, course)

end

/-- The course of a row, with the place at its end. -/
def courseOf (items : List Pattern) : Nat × Course :=
  addRow ⟨1, [], []⟩ 0 items

/-- Adds the places that can be reached without a node. -/
def Course.settle (course : Course) : Nat → List Nat → List Nat
  | 0, places => places
  | fuel + 1, places =>
    let more := course.free.filterMap fun (source, target) =>
      if places.contains source && !places.contains target then some target else none
    if more.isEmpty then places else course.settle fuel (places ++ more.eraseDups)

/-- A node that a form can make, as far as tests can tell. -/
structure Child where
  /-- The kind. -/
  kind : String
  /-- Whether it is named. -/
  named : Bool
  /-- The fields that it fills. -/
  fields : List String
  /-- The families through which it is reached. -/
  families : List String

/-- A node can pass a test. Errors may stand anywhere. -/
def passes (spec : NodeSpec) (child : Child) : Bool :=
  let test := match spec.test with
    | .anything => true
    | .anyNamed => child.named
    | .error => true
    | .missing none => child.named
    | .missing (some (kind, named)) => child.kind == kind && child.named == named
    | .kind kind named => child.kind == kind && child.named == named
    | .family family none => child.families.contains family
    | .family family (some (kind, named)) =>
      child.families.contains family && child.kind == kind && child.named == named
  test && match spec.field with
    | none => true
    | some field => child.fields.contains field || spec.test == .error

/-- The places after a node. -/
def Course.take (course : Course) (child : Child) (places : List Nat) : List Nat :=
  let more := course.waits.filterMap fun wait =>
    if places.contains wait.source && !places.contains wait.target && passes wait.spec child then
      some wait.target
    else none
  if more.isEmpty then places else course.settle course.size (places ++ more.eraseDups)

/-- What a form is looked at for: the fields and families that its nodes get from outside. -/
structure Context where
  /-- The fields. -/
  fields : List String
  /-- The families that were asked for, innermost first. -/
  families : List String

/-- The families of a kind that was asked for by some families. -/
def familiesFor (grammar : Grammar) (context : Context) (kind : String) : List String :=
  context.families.flatMap (fun family => grammar.familiesOf family kind)

/-- The node of a kind in a context. -/
def childOf (grammar : Grammar) (context : Context) (kind : String) (named : Bool) : Child :=
  ⟨kind, named, context.fields, if named then familiesFor grammar context kind else []⟩

/-- The places after a node that an operator makes. -/
def grow (grammar : Grammar) (course : Course) (context : Context) (title : Option (String × Bool))
    (places : List Nat) (tail : Tail) : List Nat :=
  let (kind, named) := title.getD (tail.kind, true)
  course.take (childOf grammar context kind named) places

/-- Everything that may be reached when the forms nest too deep to be followed. -/
def Course.everything (course : Course) : List Nat := List.range course.size

/-- Repeats a step as often as it can reach new places. -/
def repeatStep (step : List Nat → List Nat) : Nat → List Nat → List Nat
  | 0, places => places
  | fuel + 1, places =>
    let more := (places ++ step places).eraseDups
    if more.length = places.length then places else repeatStep step fuel more

/-- The places after a form; `fuel` bounds how deep forms nest. A node of the form retitled by the
context keeps the title. -/
def flow (grammar : Grammar) (course : Course) :
    Nat → Context → Option (String × Bool) → Form → List Nat → List Nat
  | 0, _, _, _, _ => course.everything
  | fuel + 1, context, title, form, places =>
    let here (kind : String) (named : Bool) : List Nat :=
      let (kind, named) := title.getD (kind, named)
      course.take (childOf grammar context kind named) places
    match form with
    | .lit text => here text false
    | .op text _ => here text false
    | .closing text => here text false
    | .standIn text => here text false
    | .leaf kind _ => here kind true
    | .seq parts =>
      parts.foldl (fun places part => flow grammar course fuel context title part places) places
    | .alt choices =>
      (choices.flatMap (fun choice => flow grammar course fuel context title choice places)).eraseDups
    | .opt part => (places ++ flow grammar course fuel context title part places).eraseDups
    | .many part =>
      repeatStep (flow grammar course fuel context title part) (course.size + 1) places
    | .ref name _ =>
      match grammar.lookup name with
      | none => places
      | some definition =>
        let context := { context with families := definition.family.toList ++ context.families }
        let alone := flow grammar course fuel context title definition.form places
        let grown := definition.tails.flatMap (grow grammar course context title places)
        (alone ++ grown).eraseDups
    | .field name part =>
      flow grammar course fuel { context with fields := name :: context.fields } title part places
    | .node kind _ => here kind true
    | .retitle kind named part => flow grammar course fuel context (some (kind, named)) part places
    | .glued part => flow grammar course fuel context title part places
    | .nest part => flow grammar course fuel context title part places
    | .bare part => flow grammar course fuel context title part places
    | _ => places

/-- The forms inside the nodes of a kind, with the operand in front where an operator makes the
node. -/
structure Inside where
  /-- The name whose operand stands in front, the family that it is asked for, and the field that it
  fills. -/
  operand : Option (String × Option String × Option String)
  /-- What follows. -/
  form : Form

mutual

/-- The insides of the nodes of a kind that a form makes; a title replaces the kind of its nodes. -/
def insides (kind : String) (title : Option String) : Form → List Inside
  | .node own part =>
    let rest := insides kind none part
    if title.getD own == kind then ⟨none, part⟩ :: rest else rest
  | .seq parts => insidesAll kind title parts
  | .alt choices => insidesAll kind title choices
  | .opt part => insides kind title part
  | .many part => insides kind title part
  | .field _ part => insides kind title part
  | .retitle own named part => if named then insides kind (some own) part else []
  | .glued part => insides kind title part
  | .nest part => insides kind title part
  | .bare part => insides kind title part
  | _ => []

/-- The insides of the nodes of a kind that forms make. -/
def insidesAll (kind : String) (title : Option String) : List Form → List Inside
  | [] => []
  | form :: rest => insides kind title form ++ insidesAll kind title rest

end

mutual

/-- The names of the forms whose nodes a form shows under another kind. -/
def retitled (kind : String) : Form → List String
  | .retitle own true (.ref name _) => if own == kind then [name] else []
  | .seq parts => retitledAny kind parts
  | .alt choices => retitledAny kind choices
  | .opt part => retitled kind part
  | .many part => retitled kind part
  | .field _ part => retitled kind part
  | .node _ part => retitled kind part
  | .glued part => retitled kind part
  | .nest part => retitled kind part
  | .bare part => retitled kind part
  | _ => []

/-- The names of the forms whose nodes some forms show under another kind. -/
def retitledAny (kind : String) : List Form → List String
  | [] => []
  | form :: rest => retitled kind form ++ retitledAny kind rest

end

/-- The insides of the nodes that a grammar shows under a kind of another name. -/
def insidesOfRetitled (grammar : Grammar) (kind : String) : List Inside :=
  let names := grammar.definitions.flatMap fun definition =>
    retitled kind definition.form ++ definition.tails.flatMap (fun tail => retitled kind tail.body)
  (names.eraseDups.filterMap grammar.lookup).flatMap fun definition =>
    insides kind (some kind) definition.form

/-- The form of a tree's node, as far as tests can tell. -/
def formOfTree : Tree → Form
  | .leaf label _ =>
    label.fields.foldl (fun form field => .field field form)
      (if label.named then .leaf label.kind (fun _ => 0) else .lit label.kind)
  | .branch label _ => .node label.kind (.seq [])
  | _ => .seq []

/-- The insides of an extra, one for each of its samples. -/
def insidesOfExtra (extra : Extra) : List Inside :=
  extra.samples.filterMap fun sample =>
    match extra.build sample.toList with
    | .branch _ parts => some ⟨none, .seq (parts.map formOfTree)⟩
    | _ => none

/-- The insides of the nodes of a kind in a grammar. -/
def insidesOf (grammar : Grammar) (kind : String) : List Inside :=
  let ofExtras := (grammar.extras.filter (fun extra => extra.kind == kind)).flatMap insidesOfExtra
  let ofRoot : List Inside := if grammar.root == kind then [⟨none, grammar.start⟩] else []
  let ofDefinitions := grammar.definitions.flatMap fun definition =>
    insides kind none definition.form ++ definition.tails.flatMap fun tail =>
      let own : List Inside :=
        if tail.kind == kind then
          [⟨some (definition.name, tail.family, tail.field), tail.body⟩]
        else []
      own ++ insides kind none tail.body
  ofExtras ++ ofRoot ++ ofDefinitions ++ insidesOfRetitled grammar kind
    ++ insides kind none grammar.start

/-- How deep forms are followed. -/
def depth : Nat := 24

/-- The places after the operand of an operator: a node of the named form. -/
def operandFlow (grammar : Grammar) (course : Course) (context : Context) (name : String)
    (family : Option String) (places : List Nat) : List Nat :=
  match grammar.lookup name with
  | none => places
  | some definition =>
    let context := { context with families := family.toList }
    let alone := flow grammar course depth context none definition.form places
    (alone ++ definition.tails.flatMap (grow grammar course context none places)).eraseDups

/-- The places of a course that the inside of a node can reach. -/
def reach (grammar : Grammar) (course : Course) (inside : Inside) : List Nat :=
  let extras : List Nat → List Nat := fun places =>
    grammar.extras.foldl (fun places extra => course.take ⟨extra.kind, true, [], []⟩ places) places
  let start := extras (course.settle course.size [0])
  let front := match inside.operand with
    | none => start
    | some (name, family, field) =>
      operandFlow grammar course ⟨field.toList, []⟩ name family start
  extras (flow grammar course depth ⟨[], []⟩ none inside.form front)

/-- The offset of the furthest pattern that is still waited for. -/
def furthest (course : Course) (places : List Nat) : Nat :=
  let waiting := course.waits.filter (fun wait => places.contains wait.source)
  match waiting.reverse with
  | [] => (course.waits.head?.map (·.spec.offset)).getD 0
  | wait :: _ => wait.spec.offset

/-- The offset at which a row of patterns inside a node of a kind is impossible, if it is. -/
def rowFault? (grammar : Grammar) (kind : String) (items : List Pattern) : Option Nat :=
  let (stop, course) := courseOf items
  let places := ((insidesOf grammar kind).flatMap (reach grammar course)).eraseDups
  if course.waits.isEmpty || places.contains stop then none
  else some (furthest course (course.settle course.size (0 :: places)))

/-- Follows extras between the nodes of a kind as well. -/
def kindFault? (grammar : Grammar) (test : NodeTest) (items : List Pattern) : Option Nat :=
  match test with
  | .kind kind true =>
    let isExtra (item : Pattern) : Bool := match item with
      | .node spec _ => grammar.extras.any (fun extra => spec.test == .kind extra.kind true)
      | _ => false
    rowFault? grammar kind (items.filter (fun item => !isExtra item))
  | .kind _ false => items.head?.bind fun
    | .node spec _ => some spec.offset
    | _ => none
  | _ => none

mutual

/-- The first fault of a pattern, outer nodes before inner ones. -/
def fault? (grammar : Grammar) : Pattern → Option Nat
  | .node spec items =>
    match (if items.isEmpty then none else kindFault? grammar spec.test items) with
    | some offset => some offset
    | none => faultAny? grammar items
  | .group items => faultAny? grammar items
  | .choice options => faultAny? grammar options
  | .repeated part _ => fault? grammar part
  | .optional part => fault? grammar part

/-- The first fault of several patterns. -/
def faultAny? (grammar : Grammar) : List Pattern → Option Nat
  | [] => none
  | first :: rest =>
    match fault? grammar first with
    | some offset => some offset
    | none => faultAny? grammar rest

end

end Possible

end Dimming
