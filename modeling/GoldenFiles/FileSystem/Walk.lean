import GoldenFiles.FileSystem.Access

/-!
# Walking a directory

A walk visits what is below a directory: the entries of each directory in the order of their names,
and what is in a directory where its name comes. Symbolic links are followed, and a link to a
directory the walk is in ends it, as does a link that leads nowhere.

## Main definitions

* `WalkFault` — what ends a walk early
* `FoundFile` — a file that a walk has come upon
* `FileSystem.walk` — all files below a directory
-/

namespace GoldenFiles

/-- What ends a walk early. -/
inductive WalkFault
  /-- The entry at a path cannot be reached. -/
  | unreachable (path : Path) (fault : Fault)
  /-- A link leads to a directory that the walk is in. -/
  | loop (link ancestor : Path)
  deriving DecidableEq

/-- The wording of what ended a walk, then of the fault behind it, if there is one. -/
def WalkFault.messages : WalkFault → List Text
  | .unreachable path fault =>
    ["IO error for operation on ".toList ++ path.text ++ ": ".toList ++ fault.message,
      fault.message]
  | .loop link ancestor =>
    ["File system loop found: ".toList ++ link.text ++ " points to an ancestor ".toList ++
      ancestor.text]

/-- A file that a walk has come upon: the path of its directory, the names that lead from where the
walk began to that directory, and its own name. -/
structure FoundFile where
  directory : Path
  above : List Name
  name : Name
  deriving DecidableEq

/-- A directory that a walk is in. -/
structure Visited where
  location : Location
  path : Path

/-- The directory that a walk visits: where it is, the path and the names by which the walk has come
there, how many more links a path through it can have, and the directories the walk is in,
innermost first. -/
structure Visit where
  links : Nat
  location : Location
  path : Path
  above : List Name
  ancestors : List Visited

namespace Visit

/-- The path of an entry. -/
def pathOf (visit : Visit) (name : Name) : Path := visit.path.join name.bytes

/-- The visit of the directory under a name, which is at `location`. -/
def descend (visit : Visit) (name : Name) (links : Nat) (location : Location) : Visit where
  links := links
  location := location
  path := visit.pathOf name
  above := visit.above ++ [name]
  ancestors := ⟨location, visit.pathOf name⟩ :: visit.ancestors

/-- The file under a name. -/
def file (visit : Visit) (name : Name) : FoundFile := ⟨visit.path, visit.above, name⟩

/-- The directory that the walk is in already, if a location is that of one. -/
def ancestorAt? (visit : Visit) (location : Location) : Option Visited :=
  visit.ancestors.find? (·.location = location)

end Visit

namespace FileSystem

/-- The files that a visit comes upon under the given names and below them, in their order. -/
def walkNames (fs : FileSystem) (visit : Visit) : List Name → Except WalkFault (List FoundFile)
  | [] => .ok []
  | name :: rest =>
    let location := name :: visit.location
    let here : Except WalkFault (List FoundFile) :=
      match _hentry : fs.lookup location with
      | none => .error (.unreachable (visit.pathOf name) .notFound)
      | some (.file _) => .ok [visit.file name]
      | some .directory =>
        fs.walkNames (visit.descend name visit.links location) (fs.children location)
      | some (.link _) =>
        match _hresolve : fs.resolve true visit.links visit.location [.enter name] with
        | .error fault => .error (.unreachable (visit.pathOf name) fault)
        | .ok (.vacant _) => .error (.unreachable (visit.pathOf name) .notFound)
        | .ok (.found target links) =>
          if fs.isDirectory target then
            match visit.ancestorAt? target with
            | some ancestor => .error (.loop (visit.pathOf name) ancestor.path)
            | none => fs.walkNames (visit.descend name links target) (fs.children target)
          else
            .ok [visit.file name]
    match here with
    | .error fault => .error fault
    | .ok found =>
      match fs.walkNames visit rest with
      | .error fault => .error fault
      | .ok others => .ok (found ++ others)
  -- A link uses up one of the links that are left, and a directory lies deeper than the one before.
  termination_by names => (visit.links, fs.height - visit.location.length, names.length)
  decreasing_by
    · apply Prod.Lex.right
      apply Prod.Lex.left
      have hle := length_le_height _hentry
      simp only [Visit.descend, location, List.length_cons] at hle ⊢
      omega
    · apply Prod.Lex.left
      exact links_lt_of_resolve_link _hentry _hresolve
    · apply Prod.Lex.right
      apply Prod.Lex.right
      simp

/-- The files below the directory at a path. -/
def walk (fs : FileSystem) (root : Path) : Except WalkFault (List FoundFile) :=
  match fs.locate true root with
  | .error fault => .error (.unreachable root fault)
  | .ok (.vacant _) => .error (.unreachable root .notFound)
  | .ok (.found location links) =>
    if fs.isDirectory location then
      fs.walkNames ⟨links, location, root, [], [⟨location, root⟩]⟩ (fs.children location)
    else
      .error (.unreachable root .notADirectory)

end FileSystem

end GoldenFiles
