import GoldenFiles.FileSystem.Access

/-!
# Preparing a file system

Operations that build a file system up for a run and show what is in it afterwards: directories,
files together with the directories above them, links, removals, and a listing.

## Main definitions

* `FileSystem.workplace` — a file system with an empty working directory
* `FileSystem.makeDirectories`, `FileSystem.makeFile`, `FileSystem.makeLink` — new entries
* `FileSystem.remove?` — an entry taken away, with everything below it
* `FileSystem.listing` — all that there is below the working directory
-/

namespace GoldenFiles.FileSystem

/-! ### New entries -/

/-- Nothing but an empty directory of the given name, which is the working directory. -/
def workplace (name : Name) : FileSystem := startingAt [name]

/-- Follows steps from a directory and makes every directory that is missing on the way. The result
comes with the directory at the end. -/
def makeSteps (fs : FileSystem) (location : Location) :
    List Step → Except Fault (FileSystem × Location)
  | [] => .ok (fs, location)
  | step :: rest =>
    match fs.resolve true maxLinks location [step] with
    | .error fault => .error fault
    | .ok (.vacant made) => (fs.put made .directory).makeSteps made rest
    | .ok (.found reached _) =>
      if fs.isDirectory reached then fs.makeSteps reached rest else .error .notADirectory

/-- Makes the directory at a path, with those above it. -/
def makeDirectories (fs : FileSystem) (path : Path) : Except Fault FileSystem :=
  (fs.makeSteps (origin fs.workingDirectory path) path.steps).map (·.1)

/-- Makes the directories above the entry at a path. -/
def makeAbove (fs : FileSystem) (path : Path) : Except Fault (FileSystem × Location) :=
  fs.makeSteps (origin fs.workingDirectory path) (withoutLast path.steps)

/-- Makes a file, with the directories above it, or replaces its content. -/
def makeFile (fs : FileSystem) (path : Path) (content : Bytes) : Except Fault FileSystem := do
  (← fs.makeAbove path).1.write path content

/-- Makes a symbolic link, with the directories above it. -/
def makeLink (fs : FileSystem) (path target : Path) : Except Fault FileSystem := do
  let (prepared, _) ← fs.makeAbove path
  match ← prepared.locate false path with
  | .vacant location => .ok (prepared.put location (.link target))
  | .found _ _ => .error (.reported "File exists (os error 17)".toList)

/-! ### Removal -/

/-- The file system without what is at a location or below it. The working directory and the
directories above it stay. -/
def withoutTree (fs : FileSystem) (location : Location) : FileSystem where
  entries := fs.entries.filter fun entry =>
    !location.isSuffixOf entry.1 || entry.1.isSuffixOf fs.workingDirectory
  workingDirectory := fs.workingDirectory
  distinct := (List.filter_sublist.map _).nodup fs.distinct
  grounded name above h := by
    rw [entryAt_filter]
    · exact fs.grounded name above h
    · simp [List.isSuffixOf_iff_suffix.mpr h]

/-- Removes what is at a path, a link itself and not its target, if there is anything. -/
def remove? (fs : FileSystem) (path : Path) : Option FileSystem :=
  match fs.locate false path with
  | .ok (.found location _) => some (fs.withoutTree location)
  | _ => none

/-! ### Listing -/

/-- The names that lead from a directory to what is below it, innermost first. -/
def below? (directory location : Location) : Option Location :=
  if directory.isSuffixOf location ∧ directory.length < location.length then
    some (location.take (location.length - directory.length))
  else
    none

/-- The path that given names lead along, with a mark at its end for directories and links. -/
def listed (names : Location) (entry : Entry) : Bytes :=
  [slash].intercalate (names.reverse.map Name.bytes) ++
    match entry with
    | .file _ => []
    | .directory => [slash]
    | .link _ => Utf8.encode "@".toList

/-- Everything there is below the working directory, in the order of the bytes of the lines. -/
def listing (fs : FileSystem) : List Bytes :=
  (fs.entries.filterMap fun (location, entry) =>
    (below? fs.workingDirectory location).map (listed · entry)).mergeSort
      fun a b => decide (a ≤ b)

end GoldenFiles.FileSystem
