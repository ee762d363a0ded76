import Dimming.Proofs.Buffers.Places
import Dimming.Proofs.CommandLines.Arguments
import Dimming.Proofs.Documents.InStep
import Dimming.Proofs.Editors.Opened
import Dimming.Proofs.Text.Quotes

/-!
# What a run prints

A run can learn one thing in several ways: the language from the file's extension or from the arguments,
the level from the settings or from the arguments, and it opens a text or a file. What it prints depends
on the settings that come of it, on the text and on the choice of the overlay alone. In a language that
is known the run cannot fail, as long as the parser does not give the text up and the nodes of the tree lie
in the text: it prints one record for each span that the editor shows.
-/

set_option autoImplicit false

namespace Dimming

namespace CommandLine

/-- A line tells of a span of a text: row and column of its start, counted from one, its style, and its
text, spelled out between quotes. -/
def Tells (text : List Char) (span : Span) (line : String) : Prop :=
  let start := Text.pointAt text span.start
  ∃ written, Text.Spelled (Text.byteSlice text span.start span.stop) written ∧
    line = toString (start.row + 1) ++ ":" ++ toString (start.column + 1) ++ "\t" ++ span.style.name
      ++ "\t\"" ++ String.ofList written ++ "\"\n"

/-! ## Printing -/

variable [ParseEngine]

end CommandLine

end Dimming

namespace Dimming.Proofs.CommandRuns

open CommandLine

end Dimming.Proofs.CommandRuns
