import GoldenFiles.Proofs.FileSystem.Grounded

/-!
# Entries and files

The last name of a path is that of an entry. If the entry is a link, the path leads on from there,
so that two paths can lead to one file in two ways: they name the same entry, or a link is among the
entries that they name. Writing makes no paths lead to one file that did not before.

## Main definitions

* `FileSystem.Names` — a path names the entry at a location
* `FileSystem.SameEntry`, `FileSystem.SameFile` — two paths name one entry, or lead to one file
* `FileSystem.IsLink` — a path names a link

## Main results

* `FileSystem.location_of_enter` — a name that is not that of a link leads to its entry
* `FileSystem.SameFile.of_write` — what leads to one file after writing did so before
-/

namespace GoldenFiles

variable {fs after : FileSystem} {follow : Bool} {links : Nat}
  {location target x : Location} {name : Name} {steps : List Step} {path other : Path}
  {place at_ : Place} {content : Bytes}

namespace FileSystem

/-! ### Entries that are named -/

/-- A path names the entry at a location, or the place for one: its last name is not followed. -/
def Names (fs : FileSystem) (path : Path) (location : Location) : Prop :=
  ∃ place, fs.resolve false maxLinks (origin fs.workingDirectory path) path.steps = .ok place ∧
    place.location = location

/-- Two paths name the same entry. -/
def SameEntry (fs : FileSystem) (path other : Path) : Prop :=
  ∃ location, fs.Names path location ∧ fs.Names other location

/-- Two paths lead to the same file, or to the same place for one. -/
def SameFile (fs : FileSystem) (path other : Path) : Prop :=
  ∃ place at_, fs.locate true path = .ok place ∧ fs.locate true other = .ok at_ ∧
    place.location = at_.location

/-- A path names a link. -/
def IsLink (fs : FileSystem) (path : Path) : Prop :=
  ∃ location target, fs.Names path location ∧ fs.lookup location = some (.link target)

theorem Names.unique (h : fs.Names path location) (h' : fs.Names path target) :
    location = target := by
  obtain ⟨place, hplace, rfl⟩ := h
  obtain ⟨at_, hat, rfl⟩ := h'
  rw [hplace] at hat
  cases hat
  rfl

/-- A name in a directory is that of its entry. -/
theorem exists_enter (hdir : fs.isDirectory location = true) (links : Nat) (name : Name) :
    ∃ place, fs.resolve false links location [.enter name] = .ok place ∧
      place.location = name :: location := by
  cases hentry : fs.lookup (name :: location) with
  | none => exact ⟨_, by rw [resolve_enter_of_none hdir hentry, if_pos rfl], rfl⟩
  | some entry =>
    refine ⟨.found (name :: location) links, ?_, rfl⟩
    by_cases hlink : ∃ path, entry = .link path
    · obtain ⟨path, rfl⟩ := hlink
      rw [resolve, if_pos hdir]
      simp only [hentry, and_self, if_true]
    · rw [resolve_enter_of_some hdir hentry fun path heq => hlink ⟨path, heq⟩, resolve_nil]

/-- A path extended by a name names the entry in its directory. -/
theorem Reaches.names_join {segment : Bytes} (h : fs.Reaches path location links)
    (hdir : fs.isDirectory location = true) (hslash : slash ∉ segment)
    (hsegment : Step.ofSegment segment = .enter name) :
    fs.Names (path.join segment) (name :: location) := by
  rw [Names, h.resolve_join hslash, hsegment]
  exact exists_enter hdir links name

/-! ### Where entries lead -/

/-- A name that is not that of a link leads to its entry. -/
theorem location_of_enter (hdir : fs.isDirectory location = true)
    (hlink : ∀ target, fs.lookup (name :: location) ≠ some (.link target))
    (h : fs.resolve follow links location [.enter name] = .ok place) :
    place.location = name :: location := by
  cases hentry : fs.lookup (name :: location) with
  | none =>
    rw [resolve_enter_of_none hdir hentry, if_pos rfl] at h
    cases h
    rfl
  | some entry =>
    rw [resolve_enter_of_some hdir hentry fun target heq => hlink target (hentry.trans (heq ▸ rfl)),
      resolve_nil] at h
    cases h
    rfl

/-! ### After writing -/

/-- What leads to one file after a file has been put did so before. -/
theorem SameFile.of_put (hx : fs.Takes x) (h : (fs.put x (.file content)).SameFile path other) :
    fs.SameFile path other := by
  obtain ⟨place, at_, hplace, hat, heq⟩ := h
  obtain ⟨before, hbefore, hlocation⟩ := locate_of_put hx hplace
  obtain ⟨before', hbefore', hlocation'⟩ := locate_of_put hx hat
  exact ⟨before, before', hbefore, hbefore', hlocation.trans (heq.trans hlocation'.symm)⟩

/-- Writing puts a file where one can be. -/
theorem exists_of_write (hwrite : fs.write path content = .ok after) :
    ∃ place, fs.locate true path = .ok place ∧ fs.Takes place.location ∧
      after = fs.put place.location (.file content) := by
  obtain ⟨place, hplace, hdir, rfl⟩ := exists_of_write_eq_ok hwrite
  exact ⟨place, hplace, takes_of_locate hplace hdir, rfl⟩

/-- What leads to one file after writing did so before. -/
theorem SameFile.of_write {written : Path} (hwrite : fs.write written content = .ok after)
    (h : after.SameFile path other) : fs.SameFile path other := by
  obtain ⟨place, -, htakes, rfl⟩ := exists_of_write hwrite
  exact h.of_put htakes

/-- A file is read as before if another one is written. -/
theorem fileText_write_of_not_sameFile {text : Text} (hwrite : fs.write other content = .ok after)
    (h : fs.fileText path = .ok text) (hne : ¬ fs.SameFile path other) :
    after.fileText path = .ok text := by
  obtain ⟨place, hplace, htakes, rfl⟩ := exists_of_write hwrite
  refine fileText_put_of_ne htakes h fun at_ hat heq => ?_
  exact hne ⟨at_, place, hat, hplace, heq⟩

end FileSystem

end GoldenFiles
