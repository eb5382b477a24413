import GoldenFiles.Proofs.FileSystem.Grounded

/-!
# Files below a directory

A row of names leads from a directory to a file if each name is that of an entry where the names
before it have led, links followed. A walk that goes through finds the files below its root under
exactly these rows, each row once, in the lexicographic order of the rows. That a file comes in the
order of its row is kept as the walk goes into a directory, since everything found there begins with
the name of the directory, and that name comes before those that are still to be met.

## Main definitions

* `FoundFile.row` — the row of names under which a file has been found
* `FileSystem.FileBelow` — a row of names leads to a file

## Main results

* `FileSystem.mem_walk_iff` — a walk finds the files below its root
* `FileSystem.pairwise_walk` — the rows of the files strictly increase
* `FileSystem.directory_of_walk` — the directories of the files
-/

namespace GoldenFiles

variable {fs : FileSystem} {visit inner : Visit} {name other : Name} {names above rest : List Name}
  {files : List FoundFile} {base target : Location} {links left : Nat} {root : Path}
  {content : Bytes}

/-- The names that lead to a file from where the walk began. -/
def FoundFile.row (file : FoundFile) : List Name := file.above ++ [file.name]

@[simp] theorem Visit.row_file (visit : Visit) (name : Name) :
    (visit.file name).row = visit.above ++ [name] := rfl

theorem Visit.Opens.above_eq (h : visit.Opens fs name inner) :
    inner.above = visit.above ++ [name] := by
  cases h <;> rfl

namespace FileSystem

/-- The names lead from the directory at a path to a file, links followed. -/
def FileBelow (fs : FileSystem) (root : Path) (names : List Name) : Prop :=
  ∃ base links target left content, fs.locate true root = .ok (.found base links) ∧
    fs.resolve true links base (names.map .enter) = .ok (.found target left) ∧
      fs.lookup target = some (.file content)

/-! ### All files are found -/

/-- A file to which names lead from the directory of a visit is among those that the visit finds. -/
theorem Walks.exists_file (h : fs.Walks visit (fs.children visit.location) files)
    (hdir : fs.isDirectory visit.location = true)
    (hresolve : fs.resolve true visit.links visit.location (names.map .enter) =
      .ok (.found target left))
    (hfile : fs.lookup target = some (.file content)) :
    ∃ file ∈ files, file.row = visit.above ++ names := by
  induction names generalizing visit files with
  | nil =>
    rw [List.map_nil, resolve_nil] at hresolve
    cases hresolve
    simp [isDirectory, hfile] at hdir
  | cons name rest ih =>
    rw [List.map_cons] at hresolve
    have hmet : name ∈ fs.children visit.location := by
      cases hentry : fs.lookup (name :: visit.location) with
      | none =>
        rw [resolve_enter_of_none hdir hentry] at hresolve
        split at hresolve <;> cases hresolve
      | some entry => exact mem_children_of_lookup hentry
    rw [← List.singleton_append, resolve_append] at hresolve
    rcases h.of_mem hmet with ⟨hholds, hmem⟩ | ⟨inner, found, hopens, hbelow, hfound⟩
    · obtain ⟨reached, spare, hreached, hnone⟩ := hholds.resolve hdir
      rw [hreached, continued] at hresolve
      cases rest with
      | nil => exact ⟨visit.file name, hmem, rfl⟩
      | cons next more =>
        rw [List.map_cons, resolve_of_not_directory hnone] at hresolve
        cases hresolve
    · rw [hopens.resolve hdir, continued] at hresolve
      obtain ⟨file, hmem, hrow⟩ := ih hbelow hopens.isDirectory hresolve
      exact ⟨file, hfound hmem, by rw [hrow, hopens.above_eq, List.append_assoc]; rfl⟩

/-! ### Nothing else is found -/

/-- The names on the way to a file lead to its directory, and its own name from there to no
directory. -/
theorem Walks.resolve_row {location : Location}
    (h : fs.Walks (.start root location links) (fs.children location) files)
    (hdir : fs.isDirectory location = true) :
    ∀ file ∈ files, ∃ target left,
      fs.resolve true links location (file.row.map .enter) = .ok (.found target left) ∧
        ¬ fs.isDirectory target = true := by
  let Leads (visit : Visit) : Prop := fs.isDirectory visit.location = true ∧
    fs.resolve true links location (visit.above.map .enter) =
      .ok (.found visit.location visit.links)
  have hstep {visit : Visit} {name : Name} {inner : Visit} (hvisit : Leads visit)
      (hopens : visit.Opens fs name inner) : Leads inner := by
    refine ⟨hopens.isDirectory, ?_⟩
    rw [hopens.above_eq, List.map_append, resolve_append, hvisit.2]
    exact hopens.resolve hvisit.1
  intro file hmem
  obtain ⟨visit, hvisit, hholds, hfile⟩ := h.exists_visit (P := Leads)
    (fun hvisit hopens _ => hstep hvisit hopens) ⟨hdir, by simp [Visit.start]⟩ file hmem
  obtain ⟨target, left, hresolve, hnone⟩ := hholds.resolve hvisit.1
  refine ⟨target, left, ?_, hnone⟩
  rw [hfile, Visit.row_file, List.map_append, resolve_append, hvisit.2]
  exact hresolve

/-- A walk finds the files below its root. -/
theorem mem_walk_iff (h : fs.walk root = .ok files) :
    names ∈ files.map FoundFile.row ↔ fs.FileBelow root names := by
  obtain ⟨location, links, hlocate, hdir, hwalks⟩ := walk_eq_ok_iff.mp h
  rw [List.mem_map]
  constructor
  · rintro ⟨file, hmem, rfl⟩
    obtain ⟨target, left, hresolve, hnone⟩ := hwalks.resolve_row hdir file hmem
    obtain ⟨content, hfile⟩ := exists_content_of_locate hlocate hdir hresolve hnone
    exact ⟨location, links, target, left, content, hlocate, hresolve, hfile⟩
  · rintro ⟨base, spare, target, left, content, hbase, hresolve, hfile⟩
    rw [hlocate] at hbase
    cases hbase
    exact hwalks.exists_file hdir hresolve hfile

/-! ### The order of the files -/

theorem lt_of_name_lt (h : name.bytes < other.bytes) :
    (above ++ name :: names).map Name.bytes < (above ++ other :: rest).map Name.bytes := by
  induction above with
  | nil => exact List.cons_lt_cons_iff.mpr (.inl h)
  | cons first above ih => exact List.cons_lt_cons_iff.mpr (.inr ⟨rfl, ih⟩)

/-- The rows of the files begin with the names that have been met. -/
theorem Walks.row_eq (h : fs.Walks visit names files) :
    ∀ file ∈ files, ∃ name ∈ names, ∃ rest, file.row = visit.above ++ name :: rest := by
  induction h with
  | nil => exact List.forall_mem_nil _
  | @file visit name rest others h hrest ih =>
    refine List.forall_mem_cons.mpr ⟨⟨name, List.mem_cons_self, [], rfl⟩, ?_⟩
    intro file hmem
    obtain ⟨next, hnext, more, hrow⟩ := ih file hmem
    exact ⟨next, List.mem_cons_of_mem _ hnext, more, hrow⟩
  | @directory visit inner name rest found others h hbelow hrest ihBelow ihRest =>
    intro file hmem
    rcases List.mem_append.mp hmem with hmem | hmem
    · obtain ⟨next, -, more, hrow⟩ := ihBelow file hmem
      rw [h.above_eq, List.append_assoc] at hrow
      exact ⟨name, List.mem_cons_self, next :: more, hrow⟩
    · obtain ⟨next, hnext, more, hrow⟩ := ihRest file hmem
      exact ⟨next, List.mem_cons_of_mem _ hnext, more, hrow⟩

/-- The files come in the order of their rows if the names are met in their order. -/
theorem Walks.pairwise (h : fs.Walks visit names files)
    (hnames : names.Pairwise fun a b => a.bytes < b.bytes) :
    files.Pairwise fun a b => a.row.map Name.bytes < b.row.map Name.bytes := by
  induction h with
  | nil => exact .nil
  | file h hrest ih =>
    obtain ⟨hname, hincreasing⟩ := List.pairwise_cons.mp hnames
    refine List.pairwise_cons.mpr ⟨?_, ih hincreasing⟩
    intro file hmem
    obtain ⟨next, hnext, more, hfile⟩ := hrest.row_eq file hmem
    rw [hfile]
    exact lt_of_name_lt (hname next hnext)
  | @directory visit inner name rest found others h hbelow hrest ihBelow ihRest =>
    obtain ⟨hname, hincreasing⟩ := List.pairwise_cons.mp hnames
    refine List.pairwise_append.mpr
      ⟨ihBelow (fs.pairwise_lt_children inner.location), ihRest hincreasing, ?_⟩
    intro file hmem later hlater
    obtain ⟨first, -, below, hfile⟩ := hbelow.row_eq file hmem
    obtain ⟨next, hnext, more, hrow⟩ := hrest.row_eq later hlater
    rw [hfile, hrow, h.above_eq, List.append_assoc]
    exact lt_of_name_lt (hname next hnext)

/-- The rows of the files strictly increase. -/
theorem pairwise_walk (h : fs.walk root = .ok files) :
    (files.map FoundFile.row).Pairwise fun a b => a.map Name.bytes < b.map Name.bytes := by
  obtain ⟨location, links, -, -, hwalks⟩ := walk_eq_ok_iff.mp h
  exact List.pairwise_map.mpr (hwalks.pairwise (fs.pairwise_lt_children location))

/-- The directory of a file is that to which the names on the way extend the root. -/
theorem directory_of_walk (h : fs.walk root = .ok files) :
    ∀ file ∈ files, file.directory = root.below file.above := by
  intro file hmem
  obtain ⟨visit, hcomes, -, hfile⟩ := exists_visit_of_walk h file hmem
  rw [hfile]
  exact hcomes.path_eq

end FileSystem

end GoldenFiles
