import Dimming.CommandLine

/-!
# The program

Reads the files that a run needs, runs it on them and prints the result.
-/

set_option autoImplicit false

namespace Dimming

namespace CommandLine

/-- Adds what is at a path to a disk, with the directories that the path leads through. -/
def fetch (disk : Disk) (path : String) : IO Disk := do
  let trail := Path.trail path
  let passed := (List.range trail.length).map fun count => disk.here.afterAll (trail.take count)
  let place := disk.here.afterAll trail
  try
    let bytes ← IO.FS.readBinFile path
    return { disk with
      files := disk.files ++ [(place, bytes)]
      directories := passed ++ disk.directories }
  catch
    | .inappropriateType .. => return { disk with directories := place :: disk.directories }
    | _ => return disk

/-- The disk without files, seen from where the program runs. -/
def startingDisk : IO Disk := do
  let here ← IO.currentDir
  return { Disk.empty with here := Place.afterAll [] (Path.steps here.toString) }

/-- The directory of all configurations. -/
def configHome : IO String := do
  match ← IO.getEnv "XDG_CONFIG_HOME" with
  | some home => return home
  | none => return Path.join ((← IO.getEnv "HOME").getD "") ".config"

end CommandLine

end Dimming

/-- Runs the program. -/
def main (arguments : List String) : IO UInt32 := do
  let home ← Dimming.CommandLine.configHome
  let disk ← (Dimming.CommandLine.wanted arguments home).foldlM Dimming.CommandLine.fetch
    (← Dimming.CommandLine.startingDisk)
  let result := Dimming.CommandLine.run arguments disk home
  IO.print result.output
  match result.failure with
  | some reason => IO.eprintln ("Error: " ++ reason)
  | none => pure ()
  return UInt32.ofNat result.code
