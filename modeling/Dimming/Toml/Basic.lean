/-!
# Configuration values

The values that a configuration text can hold. A table remembers how it was introduced, because that
decides which later lines may add to it.

The values are those of TOML 1.0. Numbers with a fraction and dates are kept as they are written, since
no setting is one; what they mean is left out.
-/

set_option autoImplicit false

namespace Dimming

/-- How a table came into being. -/
inductive TableOrigin where
  /-- A header names it. -/
  | header
  /-- It lies on the way to a table that a header names. -/
  | implied
  /-- A key with dots leads through it. -/
  | dotted
  /-- It is written in braces. -/
  | braces
  deriving DecidableEq, Repr

/-- A value of a configuration text. -/
inductive Toml where
  /-- A text. -/
  | text (value : String)
  /-- A whole number. -/
  | whole (value : Int)
  /-- A number with a fraction or an exponent, as it is written. -/
  | real (source : String)
  /-- A truth value. -/
  | flag (value : Bool)
  /-- A date, a time or both, as it is written. -/
  | date (source : String)
  /-- Values in brackets. -/
  | list (items : List Toml)
  /-- Tables that repeated headers add, one for each header. -/
  | blocks (items : List (List (String × Toml)))
  /-- A table. -/
  | table (origin : TableOrigin) (entries : List (String × Toml))

namespace Toml

/-- The value of a key. -/
def find? (entries : List (String × Toml)) (key : String) : Option Toml :=
  (entries.find? (fun entry => entry.1 == key)).map (·.2)

/-- Puts a value in place of the one that a key has, or adds it. -/
def put (entries : List (String × Toml)) (key : String) (value : Toml) :
    List (String × Toml) :=
  if entries.any (fun entry => entry.1 == key) then
    entries.map (fun entry => if entry.1 == key then (key, value) else entry)
  else entries ++ [(key, value)]

/-- The least and the greatest whole number that a configuration can hold. -/
def wholeRange : Int × Int := (-9223372036854775808, 9223372036854775807)

end Toml

end Dimming
