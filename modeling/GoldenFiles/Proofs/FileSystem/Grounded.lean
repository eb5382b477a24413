import GoldenFiles.Proofs.FileSystem.Walking

/-!
# Where paths end

A path that is followed to its end leads to a file or to a directory, since no step leaves the tree:
the working directory lies in directories, and every step goes from a directory to the one above it
or to one of its entries.

## Main definitions

* `FileSystem.Grounded` — a directory in directories

## Main results

* `FileSystem.Grounded.resolve` — following steps ends at a directory in directories, or at a file
* `FileSystem.exists_content` — where a path leads to no directory, it leads to a file
* `FileSystem.takes_of_locate` — a file can be put where a path leads to no directory
-/

namespace GoldenFiles

variable {fs : FileSystem} {links left : Nat} {location target x : Location} {name : Name}
  {steps : List Step} {path root : Path} {content : Bytes} {place : Place} {visit : Visit}

namespace FileSystem

/-- There is a directory at a location and everywhere above it. -/
def Grounded (fs : FileSystem) (location : Location) : Prop :=
  ∀ above, above <:+ location → fs.isDirectory above = true

namespace Grounded

theorem isDirectory (h : fs.Grounded location) : fs.isDirectory location = true :=
  h location List.suffix_rfl

theorem of_suffix (h : location <:+ fs.workingDirectory) : fs.Grounded location := by
  intro above habove
  simp [FileSystem.isDirectory, lookup_of_suffix (habove.trans h)]

theorem tail (h : fs.Grounded location) : fs.Grounded location.tail :=
  fun above habove => h above (habove.trans (List.tail_suffix location))

theorem enter (h : fs.Grounded location) (hdir : fs.isDirectory (name :: location) = true) :
    fs.Grounded (name :: location) := by
  intro above habove
  rcases List.suffix_cons_iff.mp habove with rfl | habove
  · exact hdir
  · exact h above habove

theorem origin (h : fs.Grounded location) (path : Path) : fs.Grounded (origin location path) := by
  unfold FileSystem.origin
  split
  · exact .of_suffix List.nil_suffix
  · exact h

/-- Every path starts at a directory in directories. -/
theorem start (fs : FileSystem) (path : Path) :
    fs.Grounded (FileSystem.origin fs.workingDirectory path) :=
  (of_suffix List.suffix_rfl).origin path

/-- Following steps ends at a directory in directories, or at a file. -/
theorem resolve (h : fs.Grounded location)
    (hresolve : fs.resolve true links location steps = .ok (.found target left)) :
    fs.Grounded target ∨ ∃ content, fs.lookup target = some (.file content) := by
  generalize hfollow : true = follow at hresolve
  fun_induction FileSystem.resolve fs follow links location steps with
  | case1 =>
    cases hresolve
    exact .inl h
  | case2 links location rest hdir ih => exact ih h hresolve
  | case3 links location rest hdir ih => exact ih h.tail hresolve
  | case7 links location rest hdir name path hentry hstop =>
    exact absurd (hfollow.trans hstop.2) (by simp)
  | case9 location rest hdir name path hentry hgo links ih => exact ih (h.origin path) hresolve
  | case10 links location rest hdir name entry hlink hentry ih =>
    cases entry with
    | link path => exact absurd rfl (hlink path)
    | directory => exact ih (h.enter (by simp [FileSystem.isDirectory, hentry])) hresolve
    | file content =>
      cases rest with
      | nil =>
        rw [resolve_nil] at hresolve
        cases hresolve
        exact .inr ⟨content, hentry⟩
      | cons step rest =>
        rw [resolve_of_not_directory (by simp [FileSystem.isDirectory, hentry])] at hresolve
        cases hresolve
  | case4 | case5 | case6 | case8 | case11 => cases hresolve

end Grounded

/-- Where a path leads to no directory, it leads to a file. -/
theorem exists_content
    (hresolve : fs.resolve true maxLinks (origin fs.workingDirectory path) path.steps =
      .ok (.found target left))
    (hfile : ¬ fs.isDirectory target = true) : ∃ content, fs.lookup target = some (.file content) :=
  ((Grounded.start fs path).resolve hresolve).resolve_left fun h => hfile h.isDirectory

/-- Where steps from a directory lead to no directory, they lead to a file. -/
theorem exists_content_of_locate {base : Location} {links : Nat}
    (hlocate : fs.locate true path = .ok (.found base left)) (hdir : fs.isDirectory base = true)
    (hresolve : fs.resolve true left base steps = .ok (.found target links))
    (hfile : ¬ fs.isDirectory target = true) :
    ∃ content, fs.lookup target = some (.file content) := by
  have hbase : fs.Grounded base := by
    refine ((Grounded.start fs path).resolve (resolve_of_locate hlocate)).resolve_right ?_
    rintro ⟨content, hcontent⟩
    simp [FileSystem.isDirectory, hcontent] at hdir
  exact (hbase.resolve hresolve).resolve_left fun h => hfile h.isDirectory

/-- A file can be put where a path leads to no directory. -/
theorem takes_of_locate (hplace : fs.locate true path = .ok place)
    (hfile : fs.isDirectory place.location = false) : fs.Takes place.location := by
  cases place with
  | vacant x => exact .inl (lookup_of_locate_vacant hplace)
  | found x left => exact .inr (exists_content (resolve_of_locate hplace) (by simpa using hfile))

end FileSystem

end GoldenFiles
