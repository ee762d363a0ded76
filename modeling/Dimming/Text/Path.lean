/-!
# Paths

A path is text; what counts is the sequence of its steps. Slashes separate steps, repeated slashes
and inner dots add nothing, and two paths are the same when their steps are. The file name is the
last step when it is a name, and the extension is what follows the last dot of that name, unless the
dot opens it.
-/

set_option autoImplicit false

namespace Dimming

/-- One step of a path. -/
inductive Step where
  /-- The root of the file tree; only the first step of an absolute path. -/
  | root
  /-- The directory one stands in; only the first step of a relative path. -/
  | here
  /-- The directory above. -/
  | up
  /-- An entry of the directory one stands in. -/
  | name (text : List Char)
  deriving DecidableEq, Repr

/-- The step is a name with a character in it that no name can have. -/
def Step.isBroken : Step → Bool
  | .name text => text.any (· == '\x00')
  | _ => false

namespace Path

/-- The pieces of a text between its slashes, empty ones included. -/
def pieces : List Char → List (List Char)
  | [] => [[]]
  | c :: rest =>
    if c = '/' then [] :: pieces rest
    else match pieces rest with
      | [] => [[c]]
      | piece :: more => (c :: piece) :: more

/-- The step a piece stands for; empty pieces and dots stand for none. -/
def stepOf (piece : List Char) : Option Step :=
  if piece = [] ∨ piece = ['.'] then none
  else if piece = ['.', '.'] then some .up
  else some (.name piece)

/-- The steps of a path. A leading dot of a relative path is the only dot that is a step. -/
def steps (path : String) : List Step :=
  let parts := pieces path.toList
  let first := match parts with
    | [] :: _ :: _ => [Step.root]
    | ['.'] :: _ => [Step.here]
    | _ => []
  first ++ parts.filterMap stepOf

/-- The steps that are taken to reach a path. A dot at its end is one more: what stands before it has to be
entered. -/
def trail (path : String) : List Step :=
  let last := (pieces path.toList).reverse.find? (fun piece => decide (piece ≠ []))
  steps path ++ if last = some ['.'] then [.here] else []

/-- The path ends in a slash. -/
def endsInSlash (path : String) : Bool := decide (path.toList.getLast? = some '/')

/-- Two paths name the same place when their steps agree. -/
def same (a b : String) : Bool :=
  decide (steps a = steps b)

/-- The last step, when it is a name. -/
def fileNameChars? (path : String) : Option (List Char) :=
  match (steps path).getLast? with
  | some (.name text) => some text
  | _ => none

/-- The file name of a path. -/
def fileName? (path : String) : Option String :=
  (fileNameChars? path).map String.ofList

/-- Splits a name at its last dot into what stands before and after it. -/
def splitLastDot (name : List Char) : Option (List Char × List Char) :=
  let back := name.reverse
  let after := back.takeWhile (· != '.')
  match back.dropWhile (· != '.') with
  | [] => none
  | _ :: before => some (before.reverse, after.reverse)

/-- What follows the last dot of the file name, unless that dot opens the name. -/
def extension? (path : String) : Option (List Char) :=
  match fileNameChars? path with
  | none => none
  | some name =>
    match splitLastDot name with
    | some (_ :: _, after) => some after
    | _ => none

/-- The path of a directory entry. -/
def join (directory entry : String) : String :=
  directory ++ "/" ++ entry

end Path

end Dimming
