import Dimming.Tree

/-!
# Grammars as data

A form says how a piece of text may look and which tree it becomes. Choices are ordered: the first
one that fits is taken. Tokens may have blanks and extras before them unless a form says otherwise.
Operators are told by what may follow an operand and how tightly it binds. A grammar names its forms,
so that they can refer to each other.

A grammar of this sort describes the trees that tree-sitter gives for a language: the kinds of their
nodes, the fields, and what lies inside of what. How tree-sitter comes by them is left out. There are no
parse tables and no conflicts, and the order of choices stands in for precedences.
-/

set_option autoImplicit false

namespace Dimming

/-- Gives the number of characters of a token at the start of a text, and 0 when there is none. -/
abbrev Scanner := List Char → Nat

/-- Where a reader stands in a text. -/
structure Cursor where
  /-- What is left to read. -/
  rest : List Char
  /-- The number of characters left to read. -/
  left : Nat
  /-- The number of open brackets; inside of them a line break is a blank. -/
  depth : Nat
  /-- The indentations of the open blocks, innermost first. -/
  indents : List Nat
  /-- A logical line has ended, so line breaks before the next token are blanks. -/
  fresh : Bool
  /-- The next token must follow at once. -/
  tight : Bool
  /-- An operand must not take a brace behind it, because a block follows. -/
  bare : Bool

/-- How a piece of text may look. -/
inductive Form where
  /-- An anonymous token. A spelling that ends like a word must not go on as one. -/
  | lit (text : String)
  /-- An anonymous token that must not be followed by one of the given texts. -/
  | op (text : String) (others : List String)
  /-- A named token. -/
  | leaf (kind : String) (scan : Scanner)
  /-- A token that forms no node. -/
  | quiet (scan : Scanner)
  /-- One form after the other. -/
  | seq (parts : List Form)
  /-- The first form that fits. -/
  | alt (choices : List Form)
  /-- A form or nothing. -/
  | opt (part : Form)
  /-- A form any number of times. -/
  | many (part : Form)
  /-- The form of a given name; operators below the given power are left alone. -/
  | ref (name : String) (power : Nat)
  /-- The nodes of a form fill a field of their parent. -/
  | field (name : String) (part : Form)
  /-- A form that makes a named node. -/
  | node (kind : String) (part : Form)
  /-- The node of a form under another kind. -/
  | retitle (kind : String) (named : Bool) (part : Form)
  /-- The first token of the form follows at once. -/
  | glued (part : Form)
  /-- Holds when the form fits here; reads nothing. -/
  | ahead (part : Form)
  /-- Holds when the form does not fit here; reads nothing. -/
  | absent (part : Form)
  /-- Holds when a test of the place holds; reads nothing. -/
  | check (test : Cursor → Bool)
  /-- An invisible mark. Before it stand as many characters of blanks and extras as `move` says;
  behind it reading goes on with the settings that `move` gives. -/
  | mark (move : Cursor → Option (Nat × Cursor))
  /-- A form inside brackets, where no block is waited for. -/
  | nest (part : Form)
  /-- A form before a block. -/
  | bare (part : Form)
  /-- An anonymous token, or a stand-in for it where the text ends outside of all brackets. -/
  | closing (text : String)
  /-- A stand-in for a missing anonymous token; reads nothing. -/
  | standIn (text : String)
  /-- Text that fits nowhere, in an error node. -/
  | astray (scan : Scanner)
  /-- What is read so far, extended by the operators of a name that bind at least as tightly as the
  given power. -/
  | extend (name : String) (power : Nat) (left : List Tree)

/-- What may follow an operand. -/
structure Tail where
  /-- How tightly the operator binds. -/
  power : Nat
  /-- The kind of node that it makes. -/
  kind : String
  /-- The field that the operand fills, if any. -/
  field : Option String
  /-- The family of kinds that the operand is asked for, if any. -/
  family : Option String
  /-- The kinds of operand it follows; every kind when empty. -/
  operands : List String
  /-- What follows the operand. -/
  body : Form

/-- A named form. -/
structure Definition where
  /-- The name. -/
  name : String
  /-- The family of kinds that its nodes belong to. -/
  family : Option String
  /-- How the text may look. -/
  form : Form
  /-- The operators that may follow. -/
  tails : List Tail

namespace Definition

/-- A form under a name. -/
def plain (name : String) (form : Form) : Definition := ⟨name, none, form, []⟩

/-- A form that makes a node of the kind it is named for. -/
def ofKind (kind : String) (form : Form) : Definition := ⟨kind, none, .node kind form, []⟩

/-- A family of kinds: the forms that belong to it, and what may follow them. -/
def ofFamily (family : String) (form : Form) (tails : List Tail) : Definition :=
  ⟨family, some family, form, tails⟩

end Definition

/-- An extra: how to find its end and which tree it becomes. -/
structure Extra where
  /-- The kind of the node. -/
  kind : String
  /-- The length of the extra at the start of a text. -/
  scan : Scanner
  /-- The tree of its characters. -/
  build : List Char → Tree
  /-- Texts that show between them every name that its trees can hold. -/
  samples : List String

/-- A language as forms. -/
structure Grammar where
  /-- The kind of the node that holds a whole text. -/
  root : String
  /-- What a whole text looks like; read again after text that fits nothing. -/
  start : Form
  /-- A token that fits nowhere. -/
  stray : Form
  /-- The named forms. -/
  definitions : List Definition
  /-- The families of kinds, each with those of its members that belong to it through another
  family or stand for one. -/
  families : List (String × List String)
  /-- The extras. -/
  extras : List Extra
  /-- The characters that words consist of. -/
  isWord : Char → Bool
  /-- The characters that may stand between tokens. -/
  isBlank : Char → Bool
  /-- Line breaks end logical lines, and indentation opens and closes blocks. -/
  indented : Bool

namespace Grammar

/-- The definition of a name. -/
def lookup (grammar : Grammar) (name : String) : Option Definition :=
  grammar.definitions.find? (fun definition => definition.name == name)

/-- The members of a family. -/
def members (grammar : Grammar) (family : String) : List String :=
  match grammar.families.find? (fun entry => entry.1 == family) with
  | some entry => entry.2
  | none => []

/-- The families from `family` down to the one that lists `kind`, innermost first. -/
def chain (grammar : Grammar) : Nat → String → String → Option (List String)
  | 0, _, _ => none
  | fuel + 1, family, kind =>
    let members := grammar.members family
    if members.contains kind then some [family]
    else
      members.findSome? fun member =>
        (chain grammar fuel member kind).map (· ++ [family])

/-- The families that a node of a kind is reached through when the parent asks for a family. -/
def familiesOf (grammar : Grammar) (family kind : String) : List String :=
  (grammar.chain 6 family kind).getD [family]

end Grammar

namespace Form

instance : Coe String Form := ⟨.lit⟩

/-- A form one or more times. -/
def many1 (part : Form) : Form := .seq [part, .many part]

/-- Forms separated by a token, at least one. -/
def sepBy1 (part separator : Form) : Form := .seq [part, .many (.seq [separator, part])]

/-- Forms separated by commas, possibly none. -/
def commas (part : Form) : Form := .opt (sepBy1 part ",")

/-- The form of a name with all its operators. -/
def use (name : String) : Form := .ref name 0

/-- A form in parentheses. -/
def parens (part : Form) : Form := .nest (.seq ["(", part, ")"])

/-- A form in square brackets. -/
def squares (part : Form) : Form := .nest (.seq ["[", part, "]"])

/-- A form in braces. -/
def braces (part : Form) : Form := .nest (.seq ["\x7b", part, "\x7d"])

/-- Nothing. -/
def nothing : Form := .seq []

end Form

end Dimming
