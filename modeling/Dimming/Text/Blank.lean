import Dimming.Text.Regex

/-!
# Blanks of a text

The characters that Unicode counts as white space, and a text without those at its ends.
-/

set_option autoImplicit false

namespace Dimming

namespace Text

/-- White space in the sense of Unicode. -/
def isWhite (c : Char) : Bool := Regex.within Regex.blanks c

/-- A text without the white space at its ends. -/
def trim (text : List Char) : List Char :=
  ((text.dropWhile isWhite).reverse.dropWhile isWhite).reverse

/-- A letter or digit of any script. -/
def isAlphanumeric (c : Char) : Bool :=
  c != '_' && Regex.within Regex.wordChars c

/-- The lines of a text, without their ends; a text that ends in a line break has no line after it. -/
def linesOf (text : List Char) : List (List Char) :=
  let pieces := text.foldr
    (fun c (lines : List (List Char)) =>
      if c = '\n' then [] :: lines
      else match lines with
        | [] => [[c]]
        | line :: more => (c :: line) :: more)
    [[]]
  let whole := if pieces.getLast? = some [] then pieces.dropLast else pieces
  whole.map (fun line => if line.getLast? = some '\r' then line.dropLast else line)

end Text

end Dimming
