import Dimming.Toml.Basic
import Dimming.Grammar.Scan

/-!
# Reading configuration texts

A configuration text is a sequence of lines: blank ones, comments, table headers and keys with values.
Every reader gives what it read together with the text behind it, and nothing when the text breaks a
rule; there is no partial answer. `TomlText.read` reads a whole text into the entries of its top table.

This follows TOML 1.0 as the reader of toml 0.8 takes it, with its bound on nesting and with whole
numbers of 64 bits. What is left out is where a fault lies and what is said of it, and the places of
values in the text.
-/

set_option autoImplicit false

namespace Dimming

namespace TomlText

/-- What a reader gives: a value and the text behind it. -/
abbrev Read (α : Type) := Option (α × List Char)

/-- Drops spaces and tabs. -/
def skipBlank (text : List Char) : List Char :=
  text.dropWhile (fun c => c == ' ' || c == '\t')

/-- A line break. -/
def lineBreak : List Char → Option (List Char)
  | '\n' :: rest => some rest
  | '\r' :: '\n' :: rest => some rest
  | _ => none

/-- A character that may stand on a line: no control character but the tab. -/
def isPrintable (c : Char) : Bool :=
  c == '\t' || (0x20 ≤ c.toNat && c.toNat ≠ 0x7F)

/-- Drops a comment. -/
def skipComment : List Char → List Char
  | '#' :: rest => rest.dropWhile isPrintable
  | text => text

/-- The end of a line behind blanks and a comment. -/
def lineEnd (text : List Char) : Option (List Char) :=
  match skipComment (skipBlank text) with
  | [] => some []
  | rest => lineBreak rest

/-- Drops blanks, line breaks and comments that end in one. -/
def skipLines : Nat → List Char → List Char
  | 0, text => text
  | fuel + 1, text =>
    let text := skipBlank text
    match lineBreak (skipComment text) with
    | some rest => skipLines fuel rest
    | none => text

/-- The value of hexadecimal digits. -/
def hexValue (digits : List Char) : Nat :=
  digits.foldl
    (fun value c =>
      16 * value + (if c.isDigit then c.toNat - '0'.toNat
        else if 'a' ≤ c then c.toNat - 'a'.toNat + 10 else c.toNat - 'A'.toNat + 10))
    0

/-- A character given by a fixed number of hexadecimal digits. -/
def codePoint (count : Nat) (text : List Char) : Read Char :=
  let digits := text.take count
  if digits.length = count && digits.all Scan.isHexDigit then
    let value := hexValue digits
    if value < 0xD800 || (0xE000 ≤ value && value < 0x110000) then
      some (Char.ofNat value, text.drop count)
    else none
  else none

/-- What stands behind a backslash. -/
def escaped : List Char → Read Char
  | 'b' :: rest => some ('\x08', rest)
  | 't' :: rest => some ('\t', rest)
  | 'n' :: rest => some ('\n', rest)
  | 'f' :: rest => some ('\x0C', rest)
  | 'r' :: rest => some ('\r', rest)
  | '"' :: rest => some ('"', rest)
  | '\\' :: rest => some ('\\', rest)
  | 'u' :: rest => codePoint 4 rest
  | 'U' :: rest => codePoint 8 rest
  | _ => none

/-- The text up to a double quote. -/
def basicText : Nat → List Char → Read (List Char)
  | 0, _ => none
  | fuel + 1, text =>
    match text with
    | '"' :: rest => some ([], rest)
    | '\\' :: rest =>
      match escaped rest with
      | none => none
      | some (c, rest) => (basicText fuel rest).map (fun (more, rest) => (c :: more, rest))
    | c :: rest =>
      if isPrintable c then (basicText fuel rest).map (fun (more, rest) => (c :: more, rest))
      else none
    | [] => none

/-- The text up to a single quote. -/
def literalText : List Char → Read (List Char)
  | [] => none
  | '\'' :: rest => some ([], rest)
  | c :: rest =>
    if isPrintable c then (literalText rest).map (fun (more, rest) => (c :: more, rest)) else none

/-- Drops the line break, if any, that follows opening quotes at once. -/
def skipFirstBreak (text : List Char) : List Char :=
  (lineBreak text).getD text

/-- The text up to three quotes; one or two quotes more may stand before those. Line breaks become
line feeds. With escapes, a backslash at the end of a line joins the text that follows. -/
def longText (quote : Char) (escapes : Bool) : Nat → List Char → Read (List Char)
  | 0, _ => none
  | fuel + 1, text =>
    let run := (text.takeWhile (· == quote)).length
    if run ≥ 6 then none
    else if run ≥ 3 then some (List.replicate (run - 3) quote, text.drop run)
    else
      let next (c : Char) (rest : List Char) : Read (List Char) :=
        (longText quote escapes fuel rest).map (fun (more, rest) => (c :: more, rest))
      match text with
      | [] => none
      | c :: rest =>
        match lineBreak text with
        | some rest => next '\n' rest
        | none =>
          if escapes && c == '\\' then
            match lineBreak (skipBlank rest) with
            | some rest =>
              longText quote escapes fuel
                (rest.dropWhile (fun c => c == ' ' || c == '\t' || c == '\n' || c == '\r'))
            | none =>
              match escaped rest with
              | none => none
              | some (c, rest) => next c rest
          else if isPrintable c then next c rest
          else none

/-- A text in quotes of any sort. -/
def quotedText (text : List Char) : Read String :=
  let whole (reading : Read (List Char)) : Read String :=
    reading.map (fun (chars, rest) => (String.ofList chars, rest))
  match text with
  | '"' :: '"' :: '"' :: rest => whole (longText '"' true (text.length + 1) (skipFirstBreak rest))
  | '\'' :: '\'' :: '\'' :: rest =>
    whole (longText '\'' false (text.length + 1) (skipFirstBreak rest))
  | '"' :: rest => whole (basicText (text.length + 1) rest)
  | '\'' :: rest => whole (literalText rest)
  | _ => none

/-- A character of a key without quotes. -/
def isBare (c : Char) : Bool :=
  c.isAlphanum || c == '-' || c == '_'

/-- One key, bare or quoted on one line. -/
def simpleKey (text : List Char) : Read String :=
  match text with
  | '"' :: rest =>
    (basicText (text.length + 1) rest).map (fun (chars, rest) => (String.ofList chars, rest))
  | '\'' :: rest => (literalText rest).map (fun (chars, rest) => (String.ofList chars, rest))
  | _ =>
    match text.takeWhile isBare with
    | [] => none
    | name => some (String.ofList name, text.dropWhile isBare)

/-- How many keys a dotted key can have, and how deep values can nest. -/
def depthLimit : Nat := 79

/-- Keys with dots between them and blanks around each. -/
def keyPath : Nat → List Char → Read (List String)
  | 0, _ => none
  | fuel + 1, text =>
    match simpleKey (skipBlank text) with
    | none => none
    | some (key, rest) =>
      match skipBlank rest with
      | '.' :: rest => (keyPath fuel rest).map (fun (more, rest) => (key :: more, rest))
      | rest => some ([key], rest)

/-- The length of more digits behind one, with single underscores between them. -/
def digitTail (isDigit : Char → Bool) : Scanner
  | '_' :: d :: rest => if isDigit d then digitTail isDigit rest + 2 else 0
  | c :: rest => if isDigit c then digitTail isDigit rest + 1 else 0
  | [] => 0

/-- The length of digits with single underscores between them. -/
def digitRun (isDigit : Char → Bool) : Scanner
  | [] => 0
  | c :: rest => if isDigit c then digitTail isDigit rest + 1 else 0

/-- A sign. -/
def sign : Scanner := Scan.one (fun c => c == '+' || c == '-')

/-- The length of a decimal whole number; only zero itself starts with a zero. -/
def decimalRun : Scanner :=
  Scan.maybeThen sign fun
    | '0' :: _ => 1
    | text => digitRun Scan.isDigit text

/-- The length of an exponent. -/
def exponentRun : Scanner :=
  Scan.both (Scan.one (fun c => c == 'e' || c == 'E')) (Scan.maybeThen sign (digitRun Scan.isDigit))

/-- The length of a fraction. -/
def fractionRun : Scanner :=
  Scan.both (Scan.text ".") (digitRun Scan.isDigit)

/-- The length of a number with a fraction or an exponent, or of a name for no finite number. -/
def realRun : Scanner :=
  Scan.first [
    Scan.both decimalRun (Scan.first [exponentRun, Scan.andMaybe fractionRun exponentRun]),
    Scan.maybeThen sign (Scan.first [Scan.text "inf", Scan.text "nan"])]

/-- A number of exactly so many digits within bounds. -/
def fixedNumber (count low high : Nat) (text : List Char) : Read Nat :=
  let digits := text.take count
  if digits.length = count && digits.all Scan.isDigit then
    let value := digits.foldl (fun value c => 10 * value + (c.toNat - '0'.toNat)) 0
    if low ≤ value ∧ value ≤ high then some (value, text.drop count) else none
  else none

/-- Drops a given character. -/
def expect (c : Char) : List Char → Option (List Char)
  | d :: rest => if c = d then some rest else none
  | [] => none

/-- The number of days of a month. -/
def daysOf (year month : Nat) : Nat :=
  if month = 2 then
    if year % 4 = 0 ∧ (year % 100 ≠ 0 ∨ year % 400 = 0) then 29 else 28
  else if [4, 6, 9, 11].contains month then 30 else 31

/-- The text behind a day of the calendar. -/
def skipDay (text : List Char) : Option (List Char) := do
  let (year, text) ← fixedNumber 4 0 9999 text
  let (month, text) ← fixedNumber 2 1 12 (← expect '-' text)
  let (_, text) ← fixedNumber 2 1 (daysOf year month) (← expect '-' text)
  return text

/-- The text behind a time of day. -/
def skipTime (text : List Char) : Option (List Char) := do
  let (_, text) ← fixedNumber 2 0 23 text
  let (_, text) ← fixedNumber 2 0 59 (← expect ':' text)
  let (_, text) ← fixedNumber 2 0 60 (← expect ':' text)
  return text.drop (Scan.both (Scan.text ".") (Scan.run Scan.isDigit) text)

/-- The text behind the distance from universal time, if one is given. -/
def skipOffset : List Char → Option (List Char)
  | 'Z' :: rest => some rest
  | 'z' :: rest => some rest
  | c :: rest =>
    if c = '+' ∨ c = '-' then do
      let (_, rest) ← fixedNumber 2 0 23 rest
      let (_, rest) ← fixedNumber 2 0 59 (← expect ':' rest)
      return rest
    else some (c :: rest)
  | [] => some []

/-- A date, a time or both. The outer answer is nothing when the text starts like neither; the inner
one is nothing when it starts like one and goes wrong. -/
def dateTime (text : List Char) : Option (Option (List Char)) :=
  let digits := (text.takeWhile Scan.isDigit).length
  if digits = 4 && (text.drop 4).head? == some '-' then
    some do
      let rest ← skipDay text
      match rest with
      | c :: after =>
        if (c == 'T' || c == 't' || c == ' ') && ((fixedNumber 2 0 23 after).isSome
            && (after.drop 2).head? == some ':') then
          skipOffset (← skipTime after)
        else return rest
      | [] => return rest
  else if digits = 2 && (text.drop 2).head? == some ':' then some (skipTime text)
  else none

/-- The value of digits in a base, underscores left out. -/
def digitsValue (base : Nat) (digits : List Char) : Nat :=
  (digits.filter (· != '_')).foldl
    (fun value c => base * value + hexValue [c]) 0

/-- A whole number within bounds. -/
def boundedWhole (value : Int) : Option Toml :=
  if Toml.wholeRange.1 ≤ value ∧ value ≤ Toml.wholeRange.2 then some (.whole value) else none

/-- A whole number in base two, eight, ten or sixteen. -/
def wholeNumber (text : List Char) : Read Toml :=
  let based (base : Nat) (isDigit : Char → Bool) : Read Toml :=
    match digitRun isDigit (text.drop 2) with
    | 0 => none
    | count =>
      (boundedWhole (digitsValue base ((text.drop 2).take count))).map
        (fun value => (value, text.drop (count + 2)))
  match text with
  | '0' :: 'x' :: _ => based 16 Scan.isHexDigit
  | '0' :: 'o' :: _ => based 8 (fun c => '0' ≤ c && c ≤ '7')
  | '0' :: 'b' :: _ => based 2 (fun c => c == '0' || c == '1')
  | _ =>
    match decimalRun text with
    | 0 => none
    | count =>
      let digits := text.take count
      let size : Int := digitsValue 10 (digits.filter Scan.isDigit)
      (boundedWhole (if digits.head? = some '-' then -size else size)).map
        (fun value => (value, text.drop count))

/-- A number or a date. -/
def numberOrDate (text : List Char) : Read Toml :=
  match dateTime text with
  | some none => none
  | some (some rest) =>
    some (.date (String.ofList (text.take (text.length - rest.length))), rest)
  | none =>
    match realRun text with
    | 0 => wholeNumber text
    | count => some (.real (String.ofList (text.take count)), text.drop count)

/-- Changes the table at the end of a path, and makes the tables on the way. A path goes through the
last of several blocks. A dotted path does not go through a table that a header names, and no path
goes through a table in braces. -/
def reach (dotted : Bool) (change : TableOrigin → List (String × Toml) →
    Option (List (String × Toml))) :
    List String → TableOrigin → List (String × Toml) → Option (List (String × Toml))
  | [], origin, entries => change origin entries
  | key :: path, _, entries =>
    match Toml.find? entries key with
    | none =>
      let origin := if dotted then TableOrigin.dotted else .implied
      (reach dotted change path origin []).map (fun inner => Toml.put entries key (.table origin inner))
    | some (.blocks items) =>
      (reach dotted change path .header (items.getLast?.getD [])).map
        (fun inner => Toml.put entries key (.blocks (items.dropLast ++ [inner])))
    | some (.table origin inner) =>
      if origin = .braces ∨ (dotted ∧ origin = .header) then none
      else (reach dotted change path origin inner).map
        (fun inner => Toml.put entries key (.table origin inner))
    | some _ => none

/-- Adds a value under a key, which may have dots; a key is set once only, and a dotted key adds to
tables that dotted keys made. -/
def assign (path : List String) (value : Toml) :
    List String → List (String × Toml) → Option (List (String × Toml)) := fun here entries =>
  let insert (origin : TableOrigin) (inner : List (String × Toml)) :
      Option (List (String × Toml)) :=
    let key := path.getLast?.getD ""
    if path.length > 1 ∧ origin ≠ .dotted then none
    else if (Toml.find? inner key).isSome then none
    else some (inner ++ [(key, value)])
  reach false (fun origin inner => reach true insert path.dropLast origin inner) here .header entries

/-- Opens the table of a header. A table that so far lay on the way only may be opened once. -/
def openTable (path : List String) (entries : List (String × Toml)) :
    Option (List (String × Toml)) :=
  let key := path.getLast?.getD ""
  reach false
    (fun _ inner => match Toml.find? inner key with
      | none => some (inner ++ [(key, .table .header [])])
      | some (.table .implied old) => some (Toml.put inner key (.table .header old))
      | some _ => none)
    path.dropLast .header entries

/-- Opens another block of a repeated header. -/
def openBlock (path : List String) (entries : List (String × Toml)) :
    Option (List (String × Toml)) :=
  let key := path.getLast?.getD ""
  reach false
    (fun _ inner => match Toml.find? inner key with
      | none => some (inner ++ [(key, .blocks [[]])])
      | some (.blocks items) => some (Toml.put inner key (.blocks (items ++ [[]])))
      | some _ => none)
    path.dropLast .header entries

/-- The values up to a closing bracket; lines may break between them. -/
def listItems (value : List Char → Read Toml) : Nat → List Char → Read (List Toml)
  | 0, _ => none
  | fuel + 1, text =>
    match skipLines (text.length + 1) text with
    | ']' :: rest => some ([], rest)
    | text =>
      match value text with
      | none => none
      | some (item, rest) =>
        match skipLines (rest.length + 1) rest with
        | ',' :: rest => (listItems value fuel rest).map (fun (more, rest) => (item :: more, rest))
        | ']' :: rest => some ([item], rest)
        | _ => none

/-- A key and its value. -/
def pair (value : List Char → Read Toml) (text : List Char) : Read (List String × Toml) :=
  match keyPath depthLimit text with
  | some (path, '=' :: rest) =>
    (value (skipBlank rest)).map (fun (value, rest) => ((path, value), rest))
  | _ => none

/-- The pairs up to a closing brace, all on one line; at least one. -/
def bracePairs (value : List Char → Read Toml) :
    Nat → List (String × Toml) → List Char → Read (List (String × Toml))
  | 0, _, _ => none
  | fuel + 1, entries, text =>
    match pair value text with
    | none => none
    | some ((path, item), rest) =>
      match assign path item [] entries with
      | none => none
      | some entries =>
        match skipBlank rest with
        | ',' :: rest => bracePairs value fuel entries rest
        | '\x7d' :: rest => some (entries, rest)
        | _ => none

/-- A value, nested no deeper than `depth`. -/
def value : Nat → List Char → Read Toml
  | depth, text =>
    match text with
    | '"' :: _ => (quotedText text).map (fun (text, rest) => (.text text, rest))
    | '\'' :: _ => (quotedText text).map (fun (text, rest) => (.text text, rest))
    | 't' :: 'r' :: 'u' :: 'e' :: rest => some (.flag true, rest)
    | 'f' :: 'a' :: 'l' :: 's' :: 'e' :: rest => some (.flag false, rest)
    | '[' :: rest =>
      match depth with
      | 0 => none
      | depth + 1 =>
        (listItems (value depth) (text.length + 1) rest).map
          (fun (items, rest) => (.list items, rest))
    | '\x7b' :: rest =>
      match depth with
      | 0 => none
      | depth + 1 =>
        match skipBlank rest with
        | '\x7d' :: rest => some (.table .braces [], rest)
        | rest =>
          (bracePairs (value depth) (text.length + 1) [] rest).map
            (fun (entries, rest) => (.table .braces entries, rest))
    | _ => numberOrDate text

/-- The path of a header and the text behind its brackets. -/
def header (closing : List Char) (text : List Char) : Read (List String) :=
  match keyPath depthLimit text with
  | none => none
  | some (path, rest) =>
    if closing.isPrefixOf rest then some (path, rest.drop closing.length) else none

/-- Reads line after line; `here` is the path of the table that keys add to. -/
def lines : Nat → List String → List (String × Toml) → List Char → Option (List (String × Toml))
  | 0, _, _, _ => none
  | fuel + 1, here, entries, text =>
    let goOn (here : List String) (entries : Option (List (String × Toml)))
        (rest : List Char) : Option (List (String × Toml)) :=
      match entries, lineEnd rest with
      | some entries, some rest => lines fuel here entries rest
      | _, _ => none
    match skipBlank text with
    | [] => some entries
    | '[' :: '[' :: rest =>
      match header [']', ']'] rest with
      | none => none
      | some (path, rest) => goOn path (openBlock path entries) rest
    | '[' :: rest =>
      match header [']'] rest with
      | none => none
      | some (path, rest) => goOn path (openTable path entries) rest
    | text =>
      match lineEnd text with
      | some rest => lines fuel here entries rest
      | none =>
        match pair (value depthLimit) text with
        | none => none
        | some ((path, item), rest) => goOn here (assign path item here entries) rest

/-- The entries of the top table of a text; a byte order mark before it is no part of it. -/
def read (text : String) : Option (List (String × Toml)) :=
  let chars := match text.toList with
    | '\uFEFF' :: rest => rest
    | chars => chars
  lines (chars.length + 2) [] [] chars

end TomlText

end Dimming
