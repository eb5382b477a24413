import GoldenFiles.FileSystem

/-!
# Resolving paths

A path is followed step by step from the root or the working directory. A symbolic link on the way
is replaced by the steps of its target; at the end of the path it is followed or left, as asked for.
A path may lead through a limited number of links, which also ends the walk where links lead to each
other.

## Main definitions

* `Place` — where a path ends: at an entry, or where one could be made
* `FileSystem.resolve` — follows steps from a location
* `FileSystem.locate` — follows a path

## Main results

* `FileSystem.links_le_of_resolve`, `FileSystem.links_lt_of_resolve_link` — following a path gains
  no links, and following a link uses one up
-/

namespace GoldenFiles

/-- Where a path ends. -/
inductive Place
  /-- At an entry, with so many links left that could still be followed. -/
  | found (location : Location) (links : Nat)
  /-- In a directory that has no entry under the last name. -/
  | vacant (location : Location)
  deriving DecidableEq

/-- The number of links through which a path may lead. -/
def maxLinks : Nat := 40

/-- The number of bytes at which a path is too long. -/
def maxPathLength : Nat := 4096

namespace FileSystem

/-- Where a path starts that is followed from a directory. -/
def origin (directory : Location) (path : Path) : Location :=
  if path.isAbsolute then [] else directory

/-- Follows steps from a location at which there is an entry. Up to `links` symbolic links are
followed, the last step's only if `follow` says so. -/
def resolve (fs : FileSystem) (follow : Bool) (links : Nat) (location : Location) :
    List Step → Except Fault Place
  | [] => .ok (.found location links)
  | step :: rest =>
    if fs.isDirectory location then
      match step with
      | .stay => fs.resolve follow links location rest
      | .up => fs.resolve follow links location.tail rest
      | .tooLong => .error .nameTooLong
      | .enter name =>
        match fs.lookup (name :: location) with
        | none => if rest = [] then .ok (.vacant (name :: location)) else .error .notFound
        | some (.link target) =>
          if rest = [] ∧ follow = false then
            .ok (.found (name :: location) links)
          else
            match links with
            | 0 => .error .tooManyLinks
            | links + 1 =>
              fs.resolve follow links (origin location target) (target.steps ++ rest)
        | some _ => fs.resolve follow links (name :: location) rest
    else
      .error .notADirectory
  termination_by steps => (links, steps.length)

/-- What is wrong with a path before any step is made. -/
def spellingFault? (path : Path) : Option Fault :=
  if 0 ∈ path.bytes then some .zeroInPath
  else if path.bytes = [] then some .notFound
  else if maxPathLength ≤ path.bytes.length then some .nameTooLong
  else none

/-- Follows a path from the root or the working directory. -/
def locate (fs : FileSystem) (follow : Bool) (path : Path) : Except Fault Place :=
  match spellingFault? path with
  | some fault => .error fault
  | none => fs.resolve follow maxLinks (origin fs.workingDirectory path) path.steps

theorem links_le_of_resolve {fs : FileSystem} {follow : Bool} {links left : Nat}
    {location target : Location} {steps : List Step}
    (h : fs.resolve follow links location steps = .ok (.found target left)) : left ≤ links := by
  fun_induction resolve fs follow links location steps <;> grind

theorem links_lt_of_resolve_link {fs : FileSystem} {links left : Nat} {location found : Location}
    {name : Name} {target : Path} (hlink : fs.lookup (name :: location) = some (.link target))
    (h : fs.resolve true links location [.enter name] = .ok (.found found left)) :
    left < links := by
  unfold resolve at h
  split at h
  · simp only [hlink] at h
    cases links with
    | zero => simp at h
    | succ links => exact Nat.lt_succ_of_le (links_le_of_resolve (by simpa using h))
  · cases h

end FileSystem

end GoldenFiles
