import GoldenFiles.Fault

/-!
# File systems

A file system is a finite map from locations to entries: files with their content, directories, and
symbolic links with the path they stand for. A location is the row of names that leads from the root
to the entry, innermost name first, so that the location of an entry in a directory is the name of
the entry in front of the location of the directory. The root itself is always a directory, and so
are the working directory and those above it.

Every file has one location: what is written at a location is found there and nowhere else, except
through symbolic links.

## Main definitions

* `Location`, `Entry` — where something is, and what it is
* `FileSystem` — entries by location, with a working directory
* `FileSystem.startingAt` — nothing but a working directory
* `FileSystem.lookup`, `FileSystem.put` — the entry at a location
* `FileSystem.children` — the names in a directory, in the order of their bytes

## Main results

* `FileSystem.lookup_of_suffix` — the working directory lies in directories
* `FileSystem.lookup_put_self`, `FileSystem.lookup_put_of_ne` — an entry put is found where it was
  put, and nothing else changes
* `FileSystem.mem_children_iff` — the children of a directory are the names of the entries in it
-/

namespace GoldenFiles

/-- Where an entry is: the names from the entry up to the root. -/
abbrev Location := List Name

/-- What is at a location. -/
inductive Entry
  | file (content : Bytes)
  | directory
  | link (target : Path)
  deriving DecidableEq, Repr

/-! ### Entries by location -/

/-- The entry listed for a location. -/
def entryAt (location : Location) : List (Location × Entry) → Option Entry
  | [] => none
  | (key, entry) :: rest => if key = location then some entry else entryAt location rest

/-- Lists an entry for a location, in place of the one listed before. -/
def putEntry (location : Location) (entry : Entry) :
    List (Location × Entry) → List (Location × Entry)
  | [] => [(location, entry)]
  | (key, old) :: rest =>
    if key = location then (location, entry) :: rest else (key, old) :: putEntry location entry rest

theorem mem_keys_putEntry {location key : Location} {entry : Entry}
    {entries : List (Location × Entry)} :
    key ∈ (putEntry location entry entries).map (·.1) ↔
      key = location ∨ key ∈ entries.map (·.1) := by
  induction entries with
  | nil => simp [putEntry]
  | cons first rest ih =>
    obtain ⟨firstKey, old⟩ := first
    unfold putEntry
    split
    · next h => subst h; simp
    · simp only [List.map_cons, List.mem_cons, ih]; grind

theorem nodup_keys_putEntry {location : Location} {entry : Entry}
    {entries : List (Location × Entry)} (h : (entries.map (·.1)).Nodup) :
    ((putEntry location entry entries).map (·.1)).Nodup := by
  induction entries with
  | nil => simp [putEntry]
  | cons first rest ih =>
    obtain ⟨firstKey, old⟩ := first
    simp only [List.map_cons, List.nodup_cons] at h
    unfold putEntry
    split
    · next hk => subst hk; simpa using h
    · next hk =>
      simp only [List.map_cons, List.nodup_cons, mem_keys_putEntry, not_or]
      exact ⟨⟨hk, h.1⟩, ih h.2⟩

theorem entryAt_putEntry (location key : Location) (entry : Entry)
    (entries : List (Location × Entry)) :
    entryAt key (putEntry location entry entries) =
      if key = location then some entry else entryAt key entries := by
  induction entries with
  | nil => simp only [putEntry, entryAt]; grind
  | cons first rest ih =>
    obtain ⟨firstKey, old⟩ := first
    unfold putEntry
    split
    · next hk => simp only [entryAt]; grind
    · next hk => simp only [entryAt, ih]; grind

theorem mem_of_entryAt {location : Location} {entry : Entry} {entries : List (Location × Entry)}
    (h : entryAt location entries = some entry) : (location, entry) ∈ entries := by
  induction entries with
  | nil => simp [entryAt] at h
  | cons first rest ih =>
    obtain ⟨key, old⟩ := first
    unfold entryAt at h
    split at h
    · next hk => simp_all
    · exact List.mem_cons_of_mem _ (ih h)

theorem entryAt_filter {location : Location} {entries : List (Location × Entry)}
    {keep : Location × Entry → Bool} (h : ∀ entry, keep (location, entry) = true) :
    entryAt location (entries.filter keep) = entryAt location entries := by
  induction entries with
  | nil => rfl
  | cons first rest ih =>
    obtain ⟨key, entry⟩ := first
    rw [entryAt]
    by_cases hkey : key = location
    · subst hkey
      rw [List.filter_cons_of_pos (h entry), entryAt]
      simp
    · rw [if_neg hkey, ← ih]
      by_cases hkeep : keep (key, entry) = true
      · rw [List.filter_cons_of_pos hkeep, entryAt, if_neg hkey]
      · rw [List.filter_cons_of_neg hkeep]

/-! ### File systems -/

/-- Entries by location, one for each, and the directory at which relative paths start. No two
locations share a file, so that writing to one changes no other. -/
structure FileSystem where
  entries : List (Location × Entry)
  workingDirectory : Location
  distinct : (entries.map (·.1)).Nodup
  /-- The working directory is a directory in directories. -/
  grounded : ∀ name above, name :: above <:+ workingDirectory →
    entryAt (name :: above) entries = some .directory

/-- The directories that lead to a location, the one at the location first. -/
def directoriesTo : Location → List (Location × Entry)
  | [] => []
  | name :: above => (name :: above, .directory) :: directoriesTo above

theorem suffix_of_mem_directoriesTo {location key : Location}
    (h : key ∈ (directoriesTo location).map (·.1)) : key <:+ location := by
  induction location with
  | nil => cases h
  | cons name above ih =>
    rcases List.mem_cons.mp h with rfl | h
    · exact List.suffix_rfl
    · exact (ih h).trans (List.suffix_cons name above)

theorem nodup_directoriesTo (location : Location) :
    ((directoriesTo location).map (·.1)).Nodup := by
  induction location with
  | nil => exact .nil
  | cons name above ih =>
    refine List.nodup_cons.mpr ⟨?_, ih⟩
    intro hmem
    exact absurd (suffix_of_mem_directoriesTo hmem).length_le (Nat.not_succ_le_self above.length)

theorem entryAt_directoriesTo {location : Location} {name : Name} {above : Location}
    (h : name :: above <:+ location) :
    entryAt (name :: above) (directoriesTo location) = some .directory := by
  induction location with
  | nil => simp at h
  | cons first rest ih =>
    rw [directoriesTo, entryAt]
    split
    · rfl
    · next hne => exact ih ((List.suffix_cons_iff.mp h).resolve_left (Ne.symm hne))

namespace FileSystem

/-- Nothing but the working directory and the directories above it. -/
def startingAt (directory : Location) : FileSystem where
  entries := directoriesTo directory
  workingDirectory := directory
  distinct := nodup_directoriesTo directory
  grounded _ _ := entryAt_directoriesTo

/-- Nothing but the root. -/
def empty : FileSystem := startingAt []

/-- What is at a location. The root is a directory whatever the entries say. -/
def lookup (fs : FileSystem) (location : Location) : Option Entry :=
  if location = [] then some .directory else entryAt location fs.entries

/-- The file system with an entry at a location, in place of the one that was there. The working
directory and the directories above it stay. -/
def put (fs : FileSystem) (location : Location) (entry : Entry) : FileSystem :=
  if h : location <:+ fs.workingDirectory then
    fs
  else
    { entries := putEntry location entry fs.entries
      workingDirectory := fs.workingDirectory
      distinct := nodup_keys_putEntry fs.distinct
      grounded := fun name above hsuffix => by
        have hne : name :: above ≠ location := fun heq => h (heq ▸ hsuffix)
        rw [entryAt_putEntry, if_neg hne]
        exact fs.grounded name above hsuffix }

/-- Whether a directory is at a location. -/
def isDirectory (fs : FileSystem) (location : Location) : Bool :=
  fs.lookup location = some .directory

/-- The name under which an entry is in a directory, for entries that are. -/
def nameIn (directory : Location) : Location → Option Name
  | [] => none
  | name :: parent => if parent = directory then some name else none

/-- The names in a directory, in the order of their bytes. -/
def children (fs : FileSystem) (directory : Location) : List Name :=
  (fs.entries.filterMap fun entry => nameIn directory entry.1).mergeSort Name.le

/-- The length of the longest location. -/
def height (fs : FileSystem) : Nat := (fs.entries.map (·.1.length)).foldr max 0

/-! ### Laws -/

/-- The working directory lies in directories. -/
theorem lookup_of_suffix {fs : FileSystem} {location : Location}
    (h : location <:+ fs.workingDirectory) : fs.lookup location = some .directory := by
  cases location with
  | nil => rfl
  | cons name above =>
    rw [lookup, if_neg (List.cons_ne_nil _ _)]
    exact fs.grounded name above h

theorem not_suffix_of_lookup {fs : FileSystem} {location : Location}
    (h : fs.lookup location ≠ some .directory) : ¬ location <:+ fs.workingDirectory :=
  fun hsuffix => h (lookup_of_suffix hsuffix)

theorem entries_put {fs : FileSystem} {location : Location}
    (h : ¬ location <:+ fs.workingDirectory) (entry : Entry) :
    (fs.put location entry).entries = putEntry location entry fs.entries := by
  rw [put, dif_neg h]

@[simp] theorem workingDirectory_put (fs : FileSystem) (location : Location) (entry : Entry) :
    (fs.put location entry).workingDirectory = fs.workingDirectory := by
  unfold put
  split <;> rfl

theorem lookup_put_self {fs : FileSystem} {location : Location}
    (h : ¬ location <:+ fs.workingDirectory) (entry : Entry) :
    (fs.put location entry).lookup location = some entry := by
  have hne : location ≠ [] := by
    rintro rfl
    exact h List.nil_suffix
  rw [lookup, if_neg hne, entries_put h, entryAt_putEntry, if_pos rfl]

theorem lookup_put_of_ne {fs : FileSystem} {location other : Location} {entry : Entry}
    (h : other ≠ location) : (fs.put location entry).lookup other = fs.lookup other := by
  by_cases hsuffix : location <:+ fs.workingDirectory
  · rw [put, dif_pos hsuffix]
  · rw [lookup, lookup, entries_put hsuffix, entryAt_putEntry, if_neg h]

theorem mem_children_iff {fs : FileSystem} {directory : Location} {name : Name} :
    name ∈ fs.children directory ↔ ∃ entry, (name :: directory, entry) ∈ fs.entries := by
  simp only [children, List.mem_mergeSort, List.mem_filterMap]
  constructor
  · rintro ⟨⟨key, entry⟩, hmem, hname⟩
    cases key with
    | nil => simp [nameIn] at hname
    | cons first parent =>
      simp only [nameIn] at hname
      split at hname
      · next hp => cases hname; subst hp; exact ⟨entry, hmem⟩
      · cases hname
  · rintro ⟨entry, hmem⟩
    exact ⟨_, hmem, by simp [nameIn]⟩

theorem length_le_height {fs : FileSystem} {location : Location} {entry : Entry}
    (h : fs.lookup location = some entry) : location.length ≤ fs.height := by
  unfold lookup at h
  split at h
  · next hl => simp [hl]
  · have hmem := mem_of_entryAt h
    unfold height
    generalize fs.entries = entries at hmem
    induction entries with
    | nil => simp at hmem
    | cons first rest ih =>
      simp only [List.map_cons, List.foldr_cons]
      rcases List.mem_cons.1 hmem with rfl | hr
      · exact Nat.le_max_left ..
      · exact Nat.le_trans (ih hr) (Nat.le_max_right ..)

end FileSystem

end GoldenFiles
