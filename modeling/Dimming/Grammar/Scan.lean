import Dimming.Grammar.Form

/-!
# Scanners

Small functions that give the length of a token at the start of a text, with 0 for no token, and the
ways to put them together that the lexical rules of several languages share.

Tokens are those that the lexical rules of the tree-sitter grammars share. Which characters beyond ASCII
may stand in a name is told by blocks of code points; the tables of Unicode are left out.
-/

set_option autoImplicit false

namespace Dimming

namespace Scan

/-- The number of characters at the start of a text that belong to a class. -/
def run (inside : Char → Bool) : Scanner
  | [] => 0
  | c :: rest => if inside c then run inside rest + 1 else 0

/-- A given spelling. -/
def text (spelling : String) : Scanner := fun rest =>
  if spelling.toList.isPrefixOf rest then spelling.length else 0

/-- One character of a class. -/
def one (inside : Char → Bool) : Scanner
  | c :: _ => if inside c then 1 else 0
  | [] => 0

/-- The longest of several tokens. -/
def longest (scans : List Scanner) : Scanner := fun rest =>
  scans.foldl (fun best scan => max best (scan rest)) 0

/-- The first of several tokens that is there. -/
def first (scans : List Scanner) : Scanner := fun rest =>
  (scans.findSome? fun scan => match scan rest with
    | 0 => none
    | count => some count).getD 0

/-- One token and a second behind it. -/
def both (a b : Scanner) : Scanner := fun rest =>
  match a rest with
  | 0 => 0
  | count => match b (rest.drop count) with
    | 0 => 0
    | more => count + more

/-- One token and perhaps a second behind it. -/
def andMaybe (a b : Scanner) : Scanner := fun rest =>
  match a rest with
  | 0 => 0
  | count => count + b (rest.drop count)

/-- Perhaps one token, and a second behind it. -/
def maybeThen (a b : Scanner) : Scanner := fun rest =>
  let count := a rest
  match b (rest.drop count) with
  | 0 => 0
  | more => count + more

/-- A token unless it is followed by a character of a class. -/
def notBefore (scan : Scanner) (after : Char → Bool) : Scanner := fun rest =>
  match scan rest with
  | 0 => 0
  | count => match (rest.drop count).head? with
    | some c => if after c then 0 else count
    | none => count

/-- The number of characters up to and with the first place where a spelling starts; 0 when it does
not occur. -/
def through (spelling : List Char) : Scanner
  | [] => 0
  | c :: rest =>
    if spelling.isPrefixOf (c :: rest) then spelling.length
    else match through spelling rest with
      | 0 => 0
      | count => count + 1

/-- A decimal digit. -/
def isDigit (c : Char) : Bool := '0' ≤ c && c ≤ '9'

/-- A hexadecimal digit. -/
def isHexDigit (c : Char) : Bool :=
  isDigit c || ('a' ≤ c && c ≤ 'f') || ('A' ≤ c && c ≤ 'F')

/-- A letter, or a character beyond ASCII that may stand in a name. -/
def isLetter (c : Char) : Bool :=
  ('a' ≤ c && c ≤ 'z') || ('A' ≤ c && c ≤ 'Z')
    || (0xAA ≤ c.toNat && c.toNat != 0xD7 && c.toNat != 0xF7 && !isSymbol c.toNat)
where
  /-- Blocks of punctuation, arrows, box drawings, pictures and private characters. -/
  isSymbol (code : Nat) : Bool :=
    (0xAB ≤ code && code ≤ 0xB4) || (0xB6 ≤ code && code ≤ 0xB9) || (0xBB ≤ code && code ≤ 0xBF)
      || (0x2000 ≤ code && code ≤ 0x2070) || (0x20A0 ≤ code && code ≤ 0x20CF)
      || (0x2190 ≤ code && code ≤ 0x2BFF) || (0x2E00 ≤ code && code ≤ 0x2E7F)
      || (0x3000 ≤ code && code ≤ 0x3004) || (0x3008 ≤ code && code ≤ 0x3020)
      || (0xE000 ≤ code && code ≤ 0xF8FF) || (0xFE10 ≤ code && code ≤ 0xFE6F)
      || (0xFEFF ≤ code && code ≤ 0xFF0F) || (0x1F000 ≤ code && code ≤ 0x1FAFF)

/-- A character that may go on a name. -/
def isNamePart (c : Char) : Bool :=
  isLetter c || isDigit c || c == '_' || (0x300 ≤ c.toNat && c.toNat ≤ 0x36F)

/-- A name: a letter or underscore and what follows, unless the whole is a reserved word. -/
def name (isFirst isPart : Char → Bool) (reserved : List String) : Scanner := fun rest =>
  match rest with
  | [] => 0
  | c :: more =>
    if isFirst c then
      let count := run isPart more + 1
      let word := String.ofList (rest.take count)
      if reserved.contains word then 0 else count
    else 0

/-- Text up to the end of the line, behind an opening. -/
def lineComment (opening : String) (isBreak : Char → Bool) : Scanner :=
  andMaybe (text opening) (run (fun c => !isBreak c))

/-- A comment that closes. -/
def blockComment : Scanner :=
  both (text "/*") (through ['*', '/'])

/-- The length of the rest of a comment that may hold further comments, when `depth` are open; 0 when
one stays open. -/
def nestedRest : Nat → List Char → Nat
  | 0, _ => 0
  | _, [] => 0
  | depth + 1, '/' :: '*' :: rest =>
    match nestedRest (depth + 2) rest with
    | 0 => 0
    | count => count + 2
  | depth + 1, '*' :: '/' :: rest =>
    if depth = 0 then 2
    else match nestedRest depth rest with
      | 0 => 0
      | count => count + 2
  | depth + 1, _ :: rest =>
    match nestedRest (depth + 1) rest with
    | 0 => 0
    | count => count + 1

/-- A comment that closes and may hold further comments. -/
def nestedComment : Scanner
  | '/' :: '*' :: rest =>
    match nestedRest 1 rest with
    | 0 => 0
    | count => count + 2
  | _ => 0

/-- The blanks that every grammar knows. -/
def isAsciiBlank (c : Char) : Bool :=
  c == ' ' || c == '\t' || c == '\n' || c == '\r' || c.toNat == 0x0B || c.toNat == 0x0C

/-- The extra that is one named token. -/
def tokenExtra (kind : String) (scan : Scanner) : Extra :=
  ⟨kind, scan, .leaf (.ofExtra kind), []⟩

end Scan

end Dimming
