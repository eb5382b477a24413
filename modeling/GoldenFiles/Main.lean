import GoldenFiles.CommandLine

/-!
# The program

The outermost layer: it takes in the part of the disk that a call can reach, executes the call on
that, and carries out what the call has written. What a call does is said by `CommandLine.execute`;
nothing is decided here.

## Main definitions

* `Disk.around` — the part of the disk that a path can reach
* `Disk.carryOut` — files written to the disk
* `main` — a call
-/

namespace GoldenFiles.Disk

/-! ### Entries of the disk -/

/-- The entry of the disk at a location. -/
def entryOn (location : Location) : IO.FS.DirEntry :=
  ⟨"/", "/".intercalate (location.reverse.map fun name => String.ofList name.text)⟩

/-- The location that a path from the root of the disk leads to. -/
def locationOf (path : Path) : Location :=
  path.steps.foldl
    (fun location step =>
      match step with
      | .enter name => name :: location
      | .up => location.tail
      | _ => location)
    []

/-- A target for links that lead nowhere: no name on a disk is a control character. -/
def nowhere : Path := .ofText "/\u0001/\u0001".toList

/-- The path at which the links of an entry end. Links that only lead to each other stand for
themselves. -/
def targetOf (location : Location) : IO Path := do
  let path := (entryOn location).path
  try
    return .ofText (← IO.FS.realPath path).toString.toList
  catch
    | .noFileOrDirectory .. => return nowhere
    | _ => return .ofText path.toString.toList

/-- What the disk has at a location, as far as it can be found out. -/
def read? (location : Location) : IO (Option Entry) := do
  let path := (entryOn location).path
  try
    match (← path.symlinkMetadata).type with
    | .dir => return some .directory
    | .file => return some (.file (← IO.FS.readBinFile path).toList)
    | .symlink => return some (.link (← targetOf location))
    | .other => return none
  catch _ =>
    return none

/-- The names in a directory of the disk. -/
def names (location : Location) : IO (List Name) := do
  try
    let entries ← (entryOn location).path.readDir
    return entries.toList.filterMap fun entry =>
      match Step.ofSegment (Utf8.encode entry.fileName.toList) with
      | .enter name => some name
      | _ => none
  catch _ =>
    return []

/-! ### Taking in -/

/-- The file system with a directory at a location and above it, where there is nothing yet. -/
def withDirectories (fs : FileSystem) : Location → FileSystem
  | [] => fs
  | name :: above =>
    let prepared := withDirectories fs above
    match prepared.lookup (name :: above) with
    | some _ => prepared
    | none => prepared.put (name :: above) .directory

/-- The file system with an entry and the directories above it. -/
def withEntry (fs : FileSystem) (location : Location) (entry : Entry) : FileSystem :=
  match location with
  | [] => fs
  | name :: above => (withDirectories fs above).put (name :: above) entry

/-- Takes in what is at a location and below it, and what the links there lead to. The result comes
with the locations that have been gone through. -/
partial def takeTree (fs : FileSystem) (seen : List Location) (location : Location) :
    IO (FileSystem × List Location) := do
  if location ∈ seen then
    return (fs, seen)
  match ← read? location with
  | none => return (fs, seen)
  | some entry =>
    let mut state := (withEntry fs location entry, location :: seen)
    match entry with
    | .file _ => return state
    | .link target => takeTree state.1 state.2 (locationOf target)
    | .directory =>
      for name in ← names location do
        state ← takeTree state.1 state.2 (name :: location)
      return state

/-- Takes in what is on a way of steps from a location, and the tree at its end. -/
def takeWay (fs : FileSystem) (location : Location) : List Step → IO FileSystem
  | [] => return (← takeTree fs [] location).1
  | .stay :: rest => takeWay fs location rest
  | .up :: rest => takeWay fs location.tail rest
  | .tooLong :: _ => return fs
  | .enter name :: rest => do
    match ← read? (name :: location) with
    | none => return fs
    | some entry =>
      let taken := withEntry fs (name :: location) entry
      match entry with
      | .file _ => return taken
      | .directory => takeWay taken (name :: location) rest
      | .link target => takeWay taken (locationOf target) rest

/-- The part of the disk that a path can reach. -/
def around (path : Path) : IO FileSystem := do
  let directory := locationOf (.ofText (← IO.FS.realPath ".").toString.toList)
  takeWay (.startingAt directory) (FileSystem.origin directory path) path.steps

/-! ### Carrying out -/

/-- Writes the files to the disk that are not as they were. -/
def carryOut (before after : FileSystem) : IO Unit :=
  for (location, entry) in after.entries do
    match entry with
    | .file content =>
      unless before.lookup location = some entry do
        IO.FS.writeBinFile (entryOn location).path ⟨content.toArray⟩
    | _ => pure ()

end GoldenFiles.Disk

open GoldenFiles in
/-- A call of the program: its arguments, and its exit status. -/
def main (args : List String) : IO UInt32 := do
  let arguments := args.map String.toList
  let files ←
    match CommandLine.parseArguments arguments with
    | .ok config => Disk.around config.root
    | .error _ => pure .empty
  let stdout ← IO.getStdout
  let execution := CommandLine.execute (← stdout.isTty) files arguments
  Disk.carryOut files execution.files
  stdout.write ⟨execution.stdout.toArray⟩
  (← IO.getStderr).putStr (String.ofList execution.stderr)
  return .ofNat execution.exitCode
