import Dimming.Text.Path

/-!
# Files

A disk is a tree of files and directories, and one stands in one of the directories. A path is followed step
by step, and each step is taken from a directory; two dots lead to the directory above. Reading a text fails
when the path leads nowhere, when it leads to a directory or through a file, and when the bytes are no text.
Writing needs the directory that the file is to stand in; making directories makes those above them too.

Links, permissions, limits on the length of names and a disk that is full are left out.
-/

set_option autoImplicit false

namespace Dimming

/-- Why a file operation failed. -/
inductive DiskError where
  | notFound
  | alreadyExists
  | notDirectory
  | isDirectory
  | brokenName
  | notText
  deriving DecidableEq, Repr

/-- The wording of a file error. -/
def DiskError.message : DiskError → String
  | .notFound => "No such file or directory (os error 2)"
  | .alreadyExists => "File exists (os error 17)"
  | .notDirectory => "Not a directory (os error 20)"
  | .isDirectory => "Is a directory (os error 21)"
  | .brokenName => "file name contained an unexpected NUL byte"
  | .notText => "stream did not contain valid UTF-8"

/-- A place in the tree of files: the names that lead to it from the root. -/
abbrev Place := List (List Char)

namespace Place

/-- Where a step leads. There is nothing above the root. -/
def after (place : Place) : Step → Place
  | .root => []
  | .here => place
  | .up => place.dropLast
  | .name text => place ++ [text]

/-- Where some steps lead. -/
def afterAll (place : Place) (steps : List Step) : Place := steps.foldl after place

end Place

/-- The files and directories. -/
structure Disk where
  /-- Each file with its place, and its bytes. -/
  files : List (Place × ByteArray)
  /-- Directories besides those that the files stand in. -/
  directories : List Place
  /-- The directory that relative paths start from. -/
  here : Place

namespace Disk

/-- The disk without files, seen from the root. -/
def empty : Disk := ⟨[], [], []⟩

/-- The bytes of a file. -/
def file? (disk : Disk) (place : Place) : Option ByteArray :=
  (disk.files.find? (fun entry => decide (entry.1 = place))).map (·.2)

/-- A place is a directory when it is the root, was made, or lies above something or above where one
stands. -/
def isDirectory (disk : Disk) (place : Place) : Bool :=
  place.isEmpty
    || place.isPrefixOf disk.here
    || disk.directories.any (fun made => place.isPrefixOf made)
    || disk.files.any (fun entry => place.isPrefixOf entry.1 && decide (entry.1 ≠ place))

/-- Follows some steps. Each of them is taken from a directory; where the last one leads, there need not be
anything. -/
def walk (disk : Disk) : Place → List Step → Except DiskError Place
  | place, [] => .ok place
  | place, step :: rest =>
    if disk.isDirectory place then disk.walk (place.after step) rest
    else if (disk.file? place).isSome then .error .notDirectory
    else .error .notFound

/-- The place that some steps lead to from where one stands. No steps lead nowhere. -/
def follow (disk : Disk) (steps : List Step) : Except DiskError Place :=
  if steps.isEmpty then .error .notFound
  else if steps.any Step.isBroken then .error .brokenName
  else disk.walk disk.here steps

/-! ## Reading and writing -/

/-- The bytes at a path. -/
def readBytes (disk : Disk) (path : String) : Except DiskError ByteArray :=
  match disk.follow (Path.trail path) with
  | .error cause => .error cause
  | .ok place =>
    if disk.isDirectory place then .error .isDirectory
    else match disk.file? place with
      | none => .error .notFound
      | some bytes => if Path.endsInSlash path then .error .notDirectory else .ok bytes

/-- The text at a path. -/
def read (disk : Disk) (path : String) : Except DiskError String :=
  match disk.readBytes path with
  | .error cause => .error cause
  | .ok bytes =>
    match String.fromUTF8? bytes with
    | some text => .ok text
    | none => .error .notText

/-- The disk with a file in place of what is at its place. -/
def withFile (disk : Disk) (place : Place) (bytes : ByteArray) : Disk :=
  { disk with files := disk.files.filter (fun entry => decide (entry.1 ≠ place)) ++ [(place, bytes)] }

/-- Replaces the file at a path, or makes it. -/
def write (disk : Disk) (path : String) (text : String) : Except DiskError Disk :=
  match disk.follow (Path.trail path) with
  | .error cause => .error cause
  | .ok place =>
    if disk.isDirectory place || Path.endsInSlash path then .error .isDirectory
    else .ok (disk.withFile place text.toUTF8)

/-! ## Making directories -/

/-- Some steps lead to a directory. -/
def leadsToDirectory (disk : Disk) (steps : List Step) : Bool :=
  match disk.follow steps with
  | .error _ => false
  | .ok place => disk.isDirectory place

/-- Makes a directory where some steps lead. -/
def makeDirectory (disk : Disk) (steps : List Step) : Except DiskError Disk :=
  match disk.follow steps with
  | .error cause => .error cause
  | .ok place =>
    if disk.isDirectory place || (disk.file? place).isSome then .error .alreadyExists
    else .ok { disk with directories := place :: disk.directories }

/-- Makes a directory where some steps lead, unless there is one. -/
def ensureDirectory (disk : Disk) (steps : List Step) : Except DiskError Unit × Disk :=
  match disk.makeDirectory steps with
  | .ok disk => (.ok (), disk)
  | .error cause => (if disk.leadsToDirectory steps then .ok () else .error cause, disk)

/-- Makes a directory where some steps lead, unless there is one. When the directory above is not there, that
one is made first. The steps are given from the last to the first. -/
def ensureUpwards (disk : Disk) : List Step → Except DiskError Unit × Disk
  | [] => (.ok (), disk)
  | last :: above =>
    match disk.ensureDirectory (last :: above).reverse with
    | (.error .notFound, disk) =>
      match disk.ensureUpwards above with
      | (.error cause, disk) => (.error cause, disk)
      | (.ok (), disk) => disk.ensureDirectory (last :: above).reverse
    | outcome => outcome

/-- Makes the directories that a path leads through. Those that were made stay when another one cannot be
made. -/
def makeParents (disk : Disk) (path : String) : Except DiskError Unit × Disk :=
  disk.ensureUpwards (Path.steps path).dropLast.reverse

/-- A disk that holds the given files, seen from the root. -/
def ofFiles (files : List (String × ByteArray)) : Disk :=
  ⟨files.map (fun entry => (Place.afterAll [] (Path.steps entry.1), entry.2)), [], []⟩

end Disk

end Dimming
