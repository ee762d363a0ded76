/-!
# Identities

Values that are shared are told apart by a stamp, not by their content: two values with one stamp are
the same value. A supply hands out each stamp once.
-/

set_option autoImplicit false

namespace Dimming

/-- Where the next stamp comes from. -/
structure Supply where
  next : Nat
  deriving DecidableEq, Repr, Inhabited

namespace Supply

/-- The supply that has handed out nothing. -/
def initial : Supply := ⟨0⟩

/-- The next stamp and the supply after it. -/
def take (supply : Supply) : Nat × Supply := (supply.next, ⟨supply.next + 1⟩)

end Supply

/-- A value with an identity. -/
structure Shared (α : Type) where
  stamp : Nat
  value : α
  deriving DecidableEq, Repr, Inhabited

/-- Gives a value an identity of its own. -/
def Supply.share {α : Type} (supply : Supply) (value : α) : Shared α × Supply :=
  (⟨supply.next, value⟩, ⟨supply.next + 1⟩)

end Dimming
