import ESharp.CommandLine.Run

/-!
# The program

Reads the files at which a run looks, runs the command line on them, and writes what changed.
-/

namespace ESharp

/-- The directory with what the file system has at a path. -/
def loadPath (d : Directory) (path : Text) : IO Directory := do
  let here ← IO.currentDir
  let file := here / String.ofList path
  if ← file.isDir then
    return d.set (Directory.placeOf path) .directory
  else if ← file.pathExists then
    let bytes ← IO.FS.readBinFile file
    return d.add path (.ofBytes bytes.toList) false
  else
    return d

/-- The paths of the directories on the way to a path, and the path itself. -/
def waypoints (path : Text) : List Text :=
  let place := Directory.placeOf path
  (List.range place.length).map fun n => Place.path (place.take (n + 1))

/-- Writes a file, and makes the directory it is in. -/
def storeFile (path : Text) (content : Content) : IO Unit := do
  let here ← IO.currentDir
  let file := here / String.ofList path
  match file.parent with
  | some directory => IO.FS.createDirAll directory
  | none => pure ()
  IO.FS.writeBinFile file ⟨content.toBytes.toArray⟩

end ESharp

open ESharp in
def main (args : List String) : IO UInt32 := do
  let words := args.map String.toList
  let paths := (CommandLine.lookedAt words).filter (· ≠ [])
  let before ← (paths.flatMap waypoints).foldlM loadPath Directory.fresh
  let report := CommandLine.run before words
  for (path, content) in before.changes report.directory do
    storeFile path content
  IO.eprint (String.ofList (report.events.flatMap CommandLine.eventLine))
  IO.print (String.ofList report.output)
  IO.eprint (String.ofList report.errors)
  return UInt32.ofNat report.code
