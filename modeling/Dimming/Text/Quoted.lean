import Dimming.Text.Printable

/-!
# Quoted text

A text in double quotes as diagnostic output shows it. Quotes, backslashes and some controls are escaped by
a letter. Characters that do not print, and those that extend the character before them, are escaped by
their number in hexadecimal digits, wherever they stand.
-/

set_option autoImplicit false

namespace Dimming

namespace Text

/-- A number in hexadecimal digits, the least number of them. -/
def hexText (value : Nat) : String :=
  String.ofList (Nat.toDigits 16 value)

/-- One character inside quotes. -/
def quotedChar (c : Char) : String :=
  if c = '\x00' then "\\0"
  else if c = '\t' then "\\t"
  else if c = '\r' then "\\r"
  else if c = '\n' then "\\n"
  else if c = '\\' then "\\\\"
  else if c = '"' then "\\\""
  else if prints c then String.singleton c
  else "\\u\x7b" ++ hexText c.toNat ++ "\x7d"

/-- A text in quotes. -/
def quoted (text : String) : String :=
  "\"" ++ String.join (text.toList.map quotedChar) ++ "\""

end Text

end Dimming
