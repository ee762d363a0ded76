/-!
# Regular expressions

The expressions that text predicates are written in: classes, groups, choices, counted repetition,
anchors and word boundaries. `Regex.parse?` refuses what is no expression, and `Regex.occursIn` says
whether some part of a text is matched.

The syntax is that of the regex crate, as its documentation gives it. Left out are classes inside of
classes, their differences, and the full tables of Unicode: word characters, digits and properties are
told by ranges, and case is ignored for ASCII letters only.
-/

set_option autoImplicit false

namespace Dimming

/-- A regular expression. -/
inductive Regex where
  /-- The empty text. -/
  | empty
  /-- One character in one of the ranges, or in none of them when negated. -/
  | oneOf (negated : Bool) (ranges : List (Nat × Nat))
  /-- The start of the text, or of a line. -/
  | start (lines : Bool)
  /-- The end of the text, or of a line. -/
  | stop (lines : Bool)
  /-- A place between a word character and another, or no such place when negated. -/
  | boundary (negated : Bool)
  /-- One after the other. -/
  | seq (first second : Regex)
  /-- One or the other. -/
  | alt (first second : Regex)
  /-- At least `least` times and at most `most` times. -/
  | times (part : Regex) (least : Nat) (most : Option Nat)
  deriving Repr, Inhabited

namespace Regex

/-- The ranges of decimal digits. -/
def digits : List (Nat × Nat) := [(0x30, 0x39), (0x660, 0x669), (0x966, 0x96F), (0xFF10, 0xFF19)]

/-- The ranges of word characters. -/
def wordChars : List (Nat × Nat) :=
  [(0x30, 0x39), (0x41, 0x5A), (0x5F, 0x5F), (0x61, 0x7A), (0xAA, 0xAA), (0xB5, 0xB5), (0xBA, 0xBA),
    (0xC0, 0xD6), (0xD8, 0xF6), (0xF8, 0x2C1), (0x2C6, 0x2D1), (0x300, 0x374), (0x376, 0x37D),
    (0x386, 0x481), (0x483, 0x1FFF), (0x200C, 0x200D), (0x203F, 0x2040), (0x2071, 0x2071),
    (0x207F, 0x209C), (0x20D0, 0x20F0), (0x2C00, 0x2DFF), (0x3005, 0x3007), (0x3021, 0xD7FF),
    (0xF900, 0xFDFF), (0xFE70, 0xFEFC), (0xFF10, 0xFFDC), (0x10000, 0x1EFFF), (0x20000, 0x3FFFF)]

/-- The ranges of blanks. -/
def blanks : List (Nat × Nat) :=
  [(0x09, 0x0D), (0x20, 0x20), (0x85, 0x85), (0xA0, 0xA0), (0x1680, 0x1680), (0x2000, 0x200A),
    (0x2028, 0x2029), (0x202F, 0x202F), (0x205F, 0x205F), (0x3000, 0x3000)]

/-- Membership in a list of ranges. -/
def within (ranges : List (Nat × Nat)) (c : Char) : Bool :=
  ranges.any (fun range => range.1 ≤ c.toNat && c.toNat ≤ range.2)

/-- The ranges that a list of ranges leaves out. -/
def complement (ranges : List (Nat × Nat)) : List (Nat × Nat) :=
  let sorted := ranges.mergeSort (fun a b => a.1 ≤ b.1)
  let (gaps, next) := sorted.foldl
    (fun (state : List (Nat × Nat) × Nat) range =>
      let gaps := if state.2 < range.1 then state.1 ++ [(state.2, range.1 - 1)] else state.1
      (gaps, max state.2 (range.2 + 1)))
    ([], 0)
  if next ≤ 0x10FFFF then gaps ++ [(next, 0x10FFFF)] else gaps

/-! ## Matching -/

/-- A place in a text: the character before it and the characters behind it. -/
abbrev Place := Option Char × List Char

/-- Each place once. -/
def distinctPlaces (places : List Place) : List Place :=
  places.foldl (fun kept place =>
    if kept.any (fun other => other.2.length == place.2.length) then kept else kept ++ [place]) []

/-- Whether the place is after a word character, and whether it is before one. -/
def aroundPlace (place : Place) : Bool × Bool :=
  ((place.1.map (within wordChars)).getD false, (place.2.head?.map (within wordChars)).getD false)

/-- The places reached by going on from `places` until nothing new is reached. -/
def closure (step : Place → List Place) : Nat → List Place → List Place
  | 0, places => places
  | fuel + 1, places =>
    let more := distinctPlaces (places ++ places.flatMap step)
    if more.length = places.length then places else closure step fuel more

/-- The places reached by exactly `count` steps. -/
def exactly (step : Place → List Place) : Nat → List Place → List Place
  | 0, places => places
  | count + 1, places => exactly step count (distinctPlaces (places.flatMap step))

/-- The places reached by at most `count` steps. -/
def atMost (step : Place → List Place) : Nat → List Place → List Place
  | 0, places => places
  | count + 1, places => distinctPlaces (places ++ atMost step count (places.flatMap step))

/-- The places behind the texts that the expression matches from a place. -/
def ends : Regex → Place → List Place
  | .empty, place => [place]
  | .oneOf negated ranges, place =>
    match place.2 with
    | [] => []
    | c :: rest => if within ranges c != negated then [(some c, rest)] else []
  | .start lines, place =>
    if place.1 = none || (lines && place.1 = some '\n') then [place] else []
  | .stop lines, place =>
    if place.2 = [] || (lines && place.2.head? = some '\n') then [place] else []
  | .boundary negated, place =>
    let (before, behind) := aroundPlace place
    if (before != behind) != negated then [place] else []
  | .seq first second, place => distinctPlaces ((first.ends place).flatMap second.ends)
  | .alt first second, place => distinctPlaces (first.ends place ++ second.ends place)
  | .times part least most, place =>
    let there := exactly part.ends least [place]
    match most with
    | none => closure part.ends (place.2.length + 1) there
    | some most => atMost part.ends (most - least) there

/-- The expression matches a part of the text that starts at a place or later. -/
def occursFrom (regex : Regex) (before : Option Char) : List Char → Bool
  | [] => !(regex.ends (before, [])).isEmpty
  | c :: rest =>
    !(regex.ends (before, c :: rest)).isEmpty || occursFrom regex (some c) rest

/-- The expression matches some part of the text. -/
def occursIn (regex : Regex) (text : List Char) : Bool :=
  regex.occursFrom none text

/-! ## Reading expressions -/

/-- What modifies the reading of an expression. -/
structure Modes where
  /-- Letter case does not matter. -/
  anyCase : Bool
  /-- Anchors hold at line breaks too. -/
  lines : Bool
  /-- The dot matches line breaks too. -/
  dotAll : Bool
  /-- Blanks in the expression mean nothing. -/
  spaced : Bool
  deriving Inhabited

/-- A range together with the other letter case of its ASCII letters. -/
def foldCase (range : Nat × Nat) : List (Nat × Nat) :=
  let shifted (low high : Nat) (by_ : Int) : List (Nat × Nat) :=
    let first := max range.1 low
    let last := min range.2 high
    if first ≤ last then [((first + by_).toNat, (last + by_).toNat)] else []
  range :: (shifted 0x41 0x5A 32 ++ shifted 0x61 0x7A (-32))

/-- One character class. -/
def classOf (modes : Modes) (negated : Bool) (ranges : List (Nat × Nat)) : Regex :=
  .oneOf negated (if modes.anyCase then ranges.flatMap foldCase else ranges)

/-- The value of hexadecimal digits. -/
def hexValue? (digits : List Char) : Option Nat :=
  if digits.isEmpty then none
  else digits.foldlM (fun value c =>
    if c.isDigit then some (value * 16 + (c.toNat - 0x30))
    else if 'a' ≤ c && c ≤ 'f' then some (value * 16 + (c.toNat - 0x61 + 10))
    else if 'A' ≤ c && c ≤ 'F' then some (value * 16 + (c.toNat - 0x41 + 10))
    else none) 0

/-- The number behind `\x`, `\u` or `\U`, in braces or with a fixed number of digits. -/
def codePoint? (width : Nat) : List Char → Option (Nat × List Char)
  | '\x7b' :: rest =>
    let digits := rest.takeWhile (· != '\x7d')
    match rest.dropWhile (· != '\x7d') with
    | _ :: after => (hexValue? digits).map (fun value => (value, after))
    | [] => none
  | rest =>
    if (rest.take width).length = width then
      (hexValue? (rest.take width)).map (fun value => (value, rest.drop width))
    else none

/-- What an escape in a class stands for: ranges, and whether they are negated. -/
def classEscape? (c : Char) : Option (Bool × List (Nat × Nat)) :=
  if c == 'd' then some (false, digits)
  else if c == 'D' then some (true, digits)
  else if c == 'w' then some (false, wordChars)
  else if c == 'W' then some (true, wordChars)
  else if c == 's' then some (false, blanks)
  else if c == 'S' then some (true, blanks)
  else none

/-- The character that an escape stands for, with what is left behind it. -/
def charEscape? : List Char → Option (Nat × List Char)
  | 'n' :: rest => some (0x0A, rest)
  | 't' :: rest => some (0x09, rest)
  | 'r' :: rest => some (0x0D, rest)
  | 'f' :: rest => some (0x0C, rest)
  | 'v' :: rest => some (0x0B, rest)
  | 'a' :: rest => some (0x07, rest)
  | 'x' :: rest => codePoint? 2 rest
  | 'u' :: rest => codePoint? 4 rest
  | 'U' :: rest => codePoint? 8 rest
  | c :: rest => if c.isAlphanum || c.toNat ≥ 0x80 || c == '<' || c == '>' then none else some (c.toNat, rest)
  | [] => none

/-- The ranges of a named class of letters. -/
def property? (name : String) : Option (List (Nat × Nat)) :=
  if ["L", "Letter", "Alphabetic", "Alpha"].contains name then
    some (wordChars.filter (fun range => range != (0x30, 0x39) && range != (0x5F, 0x5F)))
  else if ["Lu", "Uppercase", "Upper", "Uppercase_Letter"].contains name then
    some [(0x41, 0x5A), (0xC0, 0xD6), (0xD8, 0xDE), (0x391, 0x3A9), (0x410, 0x42F)]
  else if ["Ll", "Lowercase", "Lower", "Lowercase_Letter"].contains name then
    some [(0x61, 0x7A), (0xDF, 0xF6), (0xF8, 0xFF), (0x3B1, 0x3C9), (0x430, 0x44F)]
  else if ["N", "Nd", "Number", "Decimal_Number"].contains name then some digits
  else none

/-- A property escape: its name in braces or one letter. -/
def propertyEscape? : List Char → Option (List (Nat × Nat) × List Char)
  | '\x7b' :: rest =>
    match rest.dropWhile (· != '\x7d') with
    | _ :: after =>
      (property? (String.ofList (rest.takeWhile (· != '\x7d')))).map (fun ranges => (ranges, after))
    | [] => none
  | c :: rest => (property? (String.singleton c)).map (fun ranges => (ranges, rest))
  | [] => none

/-- One item of a class in brackets: ranges, what is left, and the code point if it is a single one. -/
def classItem? : List Char → Option (List (Nat × Nat) × List Char × Option Nat)
  | '\\' :: 'p' :: rest =>
    (propertyEscape? rest).map (fun (ranges, after) => (ranges, after, none))
  | '\\' :: 'P' :: rest =>
    (propertyEscape? rest).map (fun (ranges, after) => (complement ranges, after, none))
  | '\\' :: c :: rest =>
    match classEscape? c with
    | some (negated, ranges) =>
      some (if negated then complement ranges else ranges, rest, none)
    | none => (charEscape? (c :: rest)).map (fun (code, after) => ([(code, code)], after, some code))
  | '[' :: ':' :: rest =>
    let name := String.ofList (rest.takeWhile (fun c => c.isAlpha))
    match rest.dropWhile (fun c => c.isAlpha) with
    | ':' :: ']' :: after =>
      let ranges : Option (List (Nat × Nat)) :=
        if name == "alpha" then some [(0x41, 0x5A), (0x61, 0x7A)]
        else if name == "digit" then some [(0x30, 0x39)]
        else if name == "alnum" then some [(0x30, 0x39), (0x41, 0x5A), (0x61, 0x7A)]
        else if name == "upper" then some [(0x41, 0x5A)]
        else if name == "lower" then some [(0x61, 0x7A)]
        else if name == "space" then some [(0x09, 0x0D), (0x20, 0x20)]
        else if name == "xdigit" then some [(0x30, 0x39), (0x41, 0x46), (0x61, 0x66)]
        else if name == "word" then some [(0x30, 0x39), (0x41, 0x5A), (0x5F, 0x5F), (0x61, 0x7A)]
        else if name == "punct" then
          some [(0x21, 0x2F), (0x3A, 0x40), (0x5B, 0x60), (0x7B, 0x7E)]
        else none
      ranges.map (fun ranges => (ranges, after, none))
    | _ => none
  | '[' :: _ => none
  | c :: rest => some ([(c.toNat, c.toNat)], rest, some c.toNat)
  | [] => none

/-- The items of a class in brackets, up to its end. -/
def classItems? : Nat → Bool → List (Nat × Nat) → List Char →
    Option (List (Nat × Nat) × List Char)
  | 0, _, _, _ => none
  | _ + 1, _, _, [] => none
  | fuel + 1, isFirst, done, text =>
    match isFirst, text with
    | false, ']' :: rest => some (done, rest)
    | _, _ =>
      match classItem? text with
      | none => none
      | some (ranges, rest, code) =>
        match code, rest with
        | some low, '-' :: more =>
          match more with
          | ']' :: _ => classItems? fuel false (done ++ ranges) rest
          | _ =>
            match classItem? more with
            | some (_, after, some high) =>
              if low ≤ high then classItems? fuel false (done ++ [(low, high)]) after else none
            | _ => none
        | _, _ => classItems? fuel false (done ++ ranges) rest

/-- A class in brackets, behind the opening one. -/
def classBody? (text : List Char) : Option (Bool × List (Nat × Nat) × List Char) :=
  let (negated, body) := match text with
    | '^' :: rest => (true, rest)
    | rest => (false, rest)
  (classItems? (text.length + 1) true [] body).map (fun (ranges, rest) => (negated, ranges, rest))

/-- A number and what is left behind it. -/
def number? (text : List Char) : Option (Nat × List Char) :=
  let digits := text.takeWhile Char.isDigit
  if digits.isEmpty then none
  else some (digits.foldl (fun value c => value * 10 + (c.toNat - 0x30)) 0,
    text.dropWhile Char.isDigit)

/-- A counted repetition, behind its opening brace. -/
def counts? (text : List Char) : Option (Nat × Option Nat × List Char) :=
  match number? text with
  | none => none
  | some (least, '\x7d' :: rest) => some (least, some least, rest)
  | some (least, ',' :: '\x7d' :: rest) => some (least, none, rest)
  | some (least, ',' :: rest) =>
    match number? rest with
    | some (most, '\x7d' :: after) => if least ≤ most then some (least, some most, after) else none
    | _ => none
  | _ => none

/-- The repetitions behind an item. -/
def repeats? : Nat → Regex → List Char → Option (Regex × List Char)
  | 0, part, text => some (part, text)
  | fuel + 1, part, text =>
    let lazily : List Char → List Char
      | '?' :: rest => rest
      | rest => rest
    match text with
    | '*' :: rest => repeats? fuel (.times part 0 none) (lazily rest)
    | '+' :: rest => repeats? fuel (.times part 1 none) (lazily rest)
    | '?' :: rest => repeats? fuel (.times part 0 (some 1)) (lazily rest)
    | '\x7b' :: rest =>
      match counts? rest with
      | some (least, most, after) => repeats? fuel (.times part least most) (lazily after)
      | none => none
    | rest => some (part, rest)

/-- The flags at the start of a group, up to its colon or its end. -/
def flags? : Nat → Bool → Modes → List Char → Option (Modes × Bool × List Char)
  | 0, _, _, _ => none
  | fuel + 1, on, modes, text =>
    match text with
    | ':' :: rest => some (modes, true, rest)
    | ')' :: rest => some (modes, false, rest)
    | '-' :: rest => if on then flags? fuel false modes rest else none
    | 'i' :: rest => flags? fuel on { modes with anyCase := on } rest
    | 'm' :: rest => flags? fuel on { modes with lines := on } rest
    | 's' :: rest => flags? fuel on { modes with dotAll := on } rest
    | 'x' :: rest => flags? fuel on { modes with spaced := on } rest
    | 'u' :: rest => flags? fuel on modes rest
    | 'U' :: rest => flags? fuel on modes rest
    | 'R' :: rest => flags? fuel on modes rest
    | _ => none

/-- Skips the name of a group. -/
def groupName? (text : List Char) : Option (List Char) :=
  match text.takeWhile (fun c => c.isAlphanum || c == '_'),
    text.dropWhile (fun c => c.isAlphanum || c == '_') with
  | c :: _, '>' :: rest => if c.isDigit then none else some rest
  | _, _ => none

mutual

/-- Choices, up to a closing parenthesis or the end. -/
def choices? (fuel : Nat) (modes : Modes) (text : List Char) :
    Option (Regex × List Char) :=
  match fuel with
  | 0 => none
  | fuel + 1 =>
    match items? fuel modes .empty text with
    | some (first, '|' :: rest) =>
      (choices? fuel modes rest).map (fun (second, after) => (.alt first second, after))
    | other => other

/-- A sequence of items, up to a bar, a closing parenthesis or the end. -/
def items? (fuel : Nat) (modes : Modes) (done : Regex) (text : List Char) :
    Option (Regex × List Char) :=
  match fuel with
  | 0 => none
  | fuel + 1 =>
    let go (part : Regex) (rest : List Char) : Option (Regex × List Char) :=
      match repeats? rest.length part rest with
      | some (part, after) => items? fuel modes (.seq done part) after
      | none => none
    match text with
    | [] => some (done, [])
    | '|' :: _ => some (done, text)
    | ')' :: _ => some (done, text)
    | '*' :: _ => none
    | '+' :: _ => none
    | '?' :: _ => none
    | '\x7b' :: _ => none
    | '^' :: rest => go (.start modes.lines) rest
    | '$' :: rest => go (.stop modes.lines) rest
    | '.' :: rest => go (.oneOf true (if modes.dotAll then [] else [(0x0A, 0x0A)])) rest
    | '[' :: rest =>
      match classBody? rest with
      | some (negated, ranges, after) => go (classOf modes negated ranges) after
      | none => none
    | '(' :: '?' :: 'P' :: '<' :: rest => group (groupName? rest) modes fuel go
    | '(' :: '?' :: '<' :: rest => group (groupName? rest) modes fuel go
    | '(' :: '?' :: rest =>
      match flags? rest.length true modes rest with
      | some (inner, true, body) => group (some body) inner fuel go
      | some (outer, false, after) => items? fuel outer done after
      | none => none
    | '(' :: rest => group (some rest) modes fuel go
    | '\\' :: 'b' :: rest => go (.boundary false) rest
    | '\\' :: 'B' :: rest => go (.boundary true) rest
    | '\\' :: 'A' :: rest => go (.start false) rest
    | '\\' :: 'z' :: rest => go (.stop false) rest
    | '\\' :: 'p' :: rest =>
      match propertyEscape? rest with
      | some (ranges, after) => go (classOf modes false ranges) after
      | none => none
    | '\\' :: 'P' :: rest =>
      match propertyEscape? rest with
      | some (ranges, after) => go (classOf modes true ranges) after
      | none => none
    | '\\' :: c :: rest =>
      match classEscape? c with
      | some (negated, ranges) => go (.oneOf negated ranges) rest
      | none =>
        match charEscape? (c :: rest) with
        | some (code, after) => go (classOf modes false [(code, code)]) after
        | none => none
    | '\\' :: [] => none
    | c :: rest =>
      if modes.spaced && c.isWhitespace then items? fuel modes done rest
      else go (classOf modes false [(c.toNat, c.toNat)]) rest

/-- The inside of a group and what follows the group. -/
def group (body : Option (List Char)) (modes : Modes) (fuel : Nat)
    (go : Regex → List Char → Option (Regex × List Char)) : Option (Regex × List Char) :=
  match fuel, body with
  | fuel + 1, some text =>
    match choices? fuel modes text with
    | some (part, ')' :: after) => go part after
    | _ => none
  | _, _ => none

end

/-- The expression that a text spells, if it spells one. -/
def parse? (text : String) : Option Regex :=
  match choices? (4 * text.length + 8) default text.toList with
  | some (regex, []) => some regex
  | _ => none

end Regex

end Dimming
