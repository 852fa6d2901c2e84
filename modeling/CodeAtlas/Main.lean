import CodeAtlas.Command.Run
import CodeAtlas.Launcher
import CodeAtlas.Package
import CodeAtlas.Settings

/-!
# The command line

The program runs the command that it was given and writes its log to the error stream. A command that
works on a project reads the paths of its files from the standard input, one on a line.
-/

namespace CodeAtlas

/-- The lines of a stream up to its end. -/
partial def readLines (input : IO.FS.Stream) : IO (List String) := do
  let line ← input.getLine
  if line.isEmpty then return []
  return String.ofList (Text.trim line.toList) :: (← readLines input)

/-- Puts a file on a disk, if it can be read. -/
def addFile (disk : Disk) (path : String) : IO Disk := do
  try
    let bytes ← IO.FS.readBinFile path
    return disk.write (.ofString path) bytes.toList
  catch _ => return disk

/-- The disk with the files that a command works on. -/
def readDisk (args : List String) : IO Disk := do
  let place ← IO.getEnv "PWD"
  let disk := Disk.new (.ofString (place.getD "/"))
  if args.any fun a => a == "index" || a == "watch" then
    let paths ← readLines (← IO.getStdin)
    paths.foldlM addFile disk
  else return disk

end CodeAtlas

open CodeAtlas in
/-- Runs the program. -/
def main (args : List String) : IO UInt32 := do
  let engine : Index.Engine := {
    surroundings := { extensions := Settings.defaultExtensions }
    disk := ← readDisk args
    catalog := { storage := .file } }
  let (outcome, shell, log) := Command.runProgram "contextbrain" 78 args ({ engine := engine }, [])
  for event in log do
    IO.eprintln s!"{event.severity.label} - {event.text}"
  IO.print shell.output
  match outcome with
  | .ok code => return UInt32.ofNat code
  | .error _ => return 1
