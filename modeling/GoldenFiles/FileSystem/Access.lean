import GoldenFiles.FileSystem.Resolve

/-!
# Reading and writing files

Files are read and written whole. Writing makes the file where its directory has none under that
name, and changes nothing else.

## Main definitions

* `FileSystem.content`, `FileSystem.fileText` — the content of a file
* `FileSystem.isFile` — whether a path leads to a file
* `FileSystem.write` — the file system with new content in a file
-/

namespace GoldenFiles.FileSystem

/-! ### Reading -/

/-- What a path leads to, links followed. -/
def entry (fs : FileSystem) (path : Path) : Except Fault Entry :=
  match fs.locate true path with
  | .error fault => .error fault
  | .ok (.vacant _) => .error .notFound
  | .ok (.found location _) =>
    match fs.lookup location with
    | some entry => .ok entry
    | none => .error .notFound

/-- The content of the file at a path. -/
def content (fs : FileSystem) (path : Path) : Except Fault Bytes :=
  match fs.entry path with
  | .error fault => .error fault
  | .ok (.file content) => .ok content
  | .ok .directory => .error .isADirectory
  | .ok (.link _) => .error .tooManyLinks

/-- The text of the file at a path. -/
def fileText (fs : FileSystem) (path : Path) : Except Fault Text :=
  match fs.content path with
  | .error fault => .error fault
  | .ok content =>
    match Utf8.decode? content with
    | some text => .ok text
    | none => .error .notUtf8

/-- Whether a path leads to a file, links followed. -/
def isFile (fs : FileSystem) (path : Path) : Bool :=
  match fs.entry path with
  | .ok (.file _) => true
  | _ => false

/-! ### Writing -/

/-- The steps that lead to the directory of what the last name asks for. -/
def withoutLast (steps : List Step) : List Step :=
  (steps.reverse.dropWhile (· = .stay)).tail.reverse

/-- Where writing to a path puts its content. A path that ends in a slash can only mean a directory,
and no directory is written to. -/
def writeTarget (fs : FileSystem) (path : Path) : Except Fault Location :=
  match spellingFault? path with
  | some fault => .error fault
  | none =>
    let start := origin fs.workingDirectory path
    if path.endsInSlash then
      match fs.resolve true maxLinks start (withoutLast path.steps ++ [.stay]) with
      | .error fault => .error fault
      | .ok _ => .error .isADirectory
    else
      match fs.resolve true maxLinks start path.steps with
      | .error fault => .error fault
      | .ok (.vacant location) => .ok location
      | .ok (.found location _) =>
        if fs.isDirectory location then .error .isADirectory else .ok location

/-- Replaces the content of the file at a path, or makes the file. -/
def write (fs : FileSystem) (path : Path) (content : Bytes) : Except Fault FileSystem :=
  match fs.writeTarget path with
  | .error fault => .error fault
  | .ok location => .ok (fs.put location (.file content))

end GoldenFiles.FileSystem
