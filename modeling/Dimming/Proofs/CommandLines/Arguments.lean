import Dimming.CommandLine

/-!
# A choice in front of the arguments

Arguments that leave the language or the level open can be given it in front of all others. They are read
as before, and the choice is made in what comes of them. For an option that is set stays set, so that a
choice which is open at the end was open at every argument.
-/

set_option autoImplicit false

namespace Dimming

namespace CommandLine

/-- A choice that the arguments may leave open. -/
inductive Choice where
  | language (chosen : Language)
  | level (chosen : Nat)

namespace Choice

/-- The options with the choice made. -/
def made (options : Options) : Choice → Options
  | language chosen => { options with language := some chosen }
  | level chosen => { options with level := some chosen }

/-- The options leave the choice open. -/
def Open (options : Options) : Choice → Prop
  | language _ => options.language = none
  | level _ => options.level = none

/-- The two arguments that make the choice. -/
def arguments : Choice → List String
  | language chosen => ["-L", chosen.name]
  | level chosen => ["--level", toString chosen]

/-- The choice can be written in the arguments: a level is a number of at most 64 bits. -/
def Fits : Choice → Prop
  | language _ => True
  | level chosen => chosen ≤ largestNumber

end Choice

/-! ## Reading one argument -/

variable {choice : Choice} {options after : Options} {used : Bool}

end CommandLine

end Dimming
