import Dimming.Pattern.Read
import Mathlib.Tactic.Common

/-!
# Comments in the source of a pattern

Where a place of a source lies can be told by going through the characters before it: outside of all
strings and comments, in a string, behind the mark that escapes the next character of a string, or in a
comment. When a text ends in a comment, whatever is put behind it in the same line is read over.
-/

set_option autoImplicit false

namespace Dimming

namespace PatternReader

/-- Where a place in the source of a pattern lies. -/
inductive Scan where
  /-- Outside of strings and comments. -/
  | plain
  /-- In a string. -/
  | quoted
  /-- In a string, behind the mark that escapes a character. -/
  | escaped
  /-- In a comment. -/
  | comment
  deriving DecidableEq, Repr

/-- Where the place behind a character lies. A null character ends what is read, so that it ends a
comment as well. -/
def Scan.next : Scan → Char → Scan
  | .plain, c => if c = '"' then .quoted else if c = ';' then .comment else .plain
  | .quoted, c => if c = '"' then .plain else if c = '\\' then .escaped else .quoted
  | .escaped, _ => .quoted
  | .comment, c => if c = '\n' ∨ c = '\x00' then .plain else .comment

/-- Where the end of a text lies. -/
def Scan.after (scan : Scan) (text : List Char) : Scan := text.foldl Scan.next scan

/-- A text ends in a comment, which goes on in what is put behind the text. -/
def leavesComment (text : List Char) : Bool := decide (Scan.after .plain text = .comment)

/-- A text is scanned from its first character on. -/
@[simp] theorem Scan.after_cons (scan : Scan) (c : Char) (text : List Char) :
    scan.after (c :: text) = (scan.next c).after text := rfl

/-- Outside of strings and comments, only a quote and a semicolon open one. -/
theorem Scan.next_plain {c : Char} (hquote : c ≠ '"') (hcomment : c ≠ ';') :
    Scan.plain.next c = .plain := by
  rw [Scan.next, if_neg hquote, if_neg hcomment]

/-- Characters that open nothing do not matter. -/
theorem Scan.after_plain {text : List Char} (h : ∀ c ∈ text, c ≠ '"' ∧ c ≠ ';') (more : List Char) :
    Scan.plain.after (text ++ more) = Scan.plain.after more := by
  induction text with
  | nil => rfl
  | cons c rest ih =>
    obtain ⟨hquote, hcomment⟩ := h c List.mem_cons_self
    rw [List.cons_append, Scan.after_cons, Scan.next_plain hquote hcomment]
    exact ih fun d hd => h d (List.mem_cons_of_mem c hd)

/-- A blank opens neither a string nor a comment. -/
theorem not_opens_of_isBlank {c : Char} (h : isBlank c = true) : c ≠ '"' ∧ c ≠ ';' := by
  constructor <;> rintro rfl <;> exact absurd h (by decide)

/-- A character of a name opens neither a string nor a comment. -/
theorem not_opens_of_continuesName {c : Char} (h : continuesName c = true) : c ≠ '"' ∧ c ≠ ';' := by
  constructor <;> rintro rfl <;> exact absurd h (by decide)

end PatternReader

end Dimming
