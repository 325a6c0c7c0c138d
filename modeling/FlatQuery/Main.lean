/-
The program: fetches the variables and files that a run can look at, and
prints what the run leaves behind. It has no tables for encodings in
which a character takes several bytes; of their files it reads the ASCII.
-/
import FlatQuery.Cli

open FlatQuery

/-- The variables that a run looks at. -/
def variableNames : List String := [
  "POLLYDB_ENV", "POLLYDB_DATA_DIR", "POLLYDB_SEPARATOR", "POLLYDB_QUOTE",
  "POLLYDB_HEADER", "POLLYDB_ENCODING", "POLLYDB_MAX_COMBINATIONS",
  "POLLYDB_LOG_LEVEL", "LOG_LEVEL"]

/-- The disk with the directories that a path passes. -/
def makeWay (disk : Disk) (path : String) : Disk :=
  let step := fun (disk, here) part => (Disk.makeDirectory disk here, Disk.follow here part)
  ((Disk.parts path).foldl step (disk, Disk.start path)).1

/-- The disk with the file at a path, if there is one. -/
def fetchFile (disk : Disk) (path : String) : IO Disk := do
  let file := System.mkFilePath [path]
  if ← file.isDir then
    return (makeWay disk path).makeDirectory (Disk.segments path)
  if !(← file.pathExists) then return disk
  let bytes ← IO.FS.readBinFile file
  return (makeWay disk path).write (Disk.segments path) bytes.data

/-- The disk with a directory and the files in it. -/
def fetchDirectory (disk : Disk) (path : String) : IO Disk := do
  let directory := System.mkFilePath [path]
  if path = "" || !(← directory.isDir) then return disk
  let mut disk := (makeWay disk path).makeDirectory (Disk.segments path)
  for entry in ← directory.readDir do
    disk ← fetchFile disk (Disk.joinName path entry.fileName)
  return disk

/-- The disk with everything that a run with these arguments can look
at. -/
def fetch (vars : Config.Variables) (args : List String) : IO Disk := do
  let .ok o := Cli.Options.ofArguments vars args | return .empty
  let disk ← match o.config with
    | some path => fetchFile .empty path
    | none => pure .empty
  match Cli.config disk vars o with
  | .ok c => fetchDirectory disk c.data.directory
  | .error _ => return disk

def main (args : List String) : IO UInt32 := do
  let bound ← variableNames.filterMapM fun name => do
    return (← IO.getEnv name).map fun value => (name, value)
  let vars : Config.Variables := (bound.lookup ·)
  let outcome := Cli.run (← fetch vars args) Encoding.asciiOnly vars args
  IO.print outcome.output
  unless outcome.errors.isEmpty do
    IO.eprintln outcome.errors
  return UInt32.ofNat outcome.code
