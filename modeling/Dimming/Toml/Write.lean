import Dimming.Toml.Basic
import Dimming.Text.Quoted

/-!
# Writing configuration texts

A text is written in the plainest quotes that hold it: double quotes when nothing in it needs an
escape, else single quotes, else three double quotes, else three single quotes, and only then with
escapes. A key without quotes holds letters, digits, underscores and hyphens only.

The choice of quotes, the escapes and the form of keys are those of toml 0.8 for its pretty output. Only
what settings consist of is written: texts, whole numbers, truth values and tables of them. Dates and
numbers with a fraction are left out.
-/

set_option autoImplicit false

namespace Dimming

namespace TomlText

/-- A control character other than the tab and the line feed. -/
def isControl (c : Char) : Bool :=
  c != '\t' && c != '\n' && (c.toNat < 0x20 || c.toNat == 0x7F)

/-- The length of the longest run of a character. -/
def longestRun (c : Char) (text : List Char) : Nat :=
  (text.foldl
    (fun (state : Nat × Nat) d =>
      let run := if d == c then state.1 + 1 else 0
      (run, max run state.2))
    (0, 0)).2

/-- A number in four hexadecimal digits, with capital letters. -/
def hexFour (value : Nat) : List Char :=
  let digits := (Nat.toDigits 16 value).map Char.toUpper
  List.replicate (4 - digits.length) '0' ++ digits

/-- A text with escapes, behind `run` quotes. Where quotes may stand, only each third one in a row is
escaped, and line feeds stay. -/
def escape (long : Bool) : Nat → List Char → List Char
  | _, [] => []
  | run, c :: rest =>
    if c == '"' then
      if long && run < 2 then c :: escape long (run + 1) rest
      else '\\' :: c :: escape long 0 rest
    else
      let written :=
        if c == '\\' then ['\\', '\\']
        else if c == '\t' then ['\\', 't']
        else if c == '\n' then (if long then ['\n'] else ['\\', 'n'])
        else if c == '\r' then ['\\', 'r']
        else if c == '\x08' then ['\\', 'b']
        else if c == '\x0C' then ['\\', 'f']
        else if isControl c then '\\' :: 'u' :: hexFour c.toNat
        else [c]
      written ++ escape long 0 rest

/-- A text between quotes. -/
def between (quotes : String) (text : List Char) : String :=
  quotes ++ String.ofList text ++ quotes

/-- A text between long quotes, which a line feed follows when the text has one. -/
def betweenLong (quotes : String) (text : List Char) : String :=
  quotes ++ (if text.contains '\n' then "\n" else "") ++ String.ofList text ++ quotes

/-- A text value. -/
def writeText (value : String) : String :=
  let text := value.toList
  let control := text.any isControl
  let backslash := text.contains '\\'
  let newline := text.contains '\n'
  let doubles := longestRun '"' text
  let singles := longestRun '\'' text
  if !control && !backslash && doubles == 0 && !newline then between "\"" text
  else if !control && singles == 0 && !newline then between "'" text
  else if !control && !backslash && doubles ≤ 2 then betweenLong "\"\"\"" text
  else if !control && singles ≤ 2 then betweenLong "'''" text
  else if newline then betweenLong "\"\"\"" (escape true 0 text)
  else between "\"" (escape false 0 text)

/-- A key. -/
def writeKey (key : String) : String :=
  let text := key.toList
  let control := text.any (fun c => isControl c || c == '\n')
  if !text.isEmpty && text.all (fun c => c.isAlphanum || c == '-' || c == '_') then key
  else if !control && !text.contains '\\' && !text.contains '"' then between "\"" text
  else if !control && !text.contains '\'' then between "'" text
  else between "\"" (escape false 0 text)

/-- A key with its value. -/
def writeLine (key value : String) : String :=
  writeKey key ++ " = " ++ value ++ "\n"

end TomlText

end Dimming
