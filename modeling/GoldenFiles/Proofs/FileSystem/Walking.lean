import GoldenFiles.FileSystem.Walk
import GoldenFiles.Proofs.FileSystem.Children

/-!
# Walks

A walk that goes through meets, under every name, a file or a directory that it visits in turn. What
writing a file does to a walk follows from this: it goes through as before and comes upon the same
files, and upon the new one where the directory of that is visited.

## Main definitions

* `Visit.Holds`, `Visit.Opens` — what a visit meets under a name
* `FileSystem.Walks` — a walk that goes through
* `Visit.Comes` — a visit that a walk comes to

## Main results

* `FileSystem.walkNames_eq_ok_iff` — walks that go through, as derivations
* `FileSystem.Walks.exists_visit` — every file is found by a visit that the walk comes to
* `FileSystem.walk_of_children` — a walk from a directory of files alone
* `FileSystem.walk_put_of_file`, `FileSystem.walk_put_of_none` — a walk after writing
* `Visit.Comes.opens` — the paths of visits lead to their directories
-/

namespace GoldenFiles

variable {fs : FileSystem} {visit inner : Visit} {name : Name} {names rest : List Name}
  {files found others : List FoundFile} {x location : Location} {content : Bytes}

/-! ### What a visit meets -/

namespace Visit

/-- Under a name there is a file, or a link that leads to none of the directories. -/
inductive Holds (fs : FileSystem) (visit : Visit) (name : Name) : Prop
  | file {content : Bytes} (h : fs.lookup (name :: visit.location) = some (.file content))
  | link {path : Path} {target : Location} {left : Nat}
    (h : fs.lookup (name :: visit.location) = some (.link path))
    (hresolve : fs.resolve true visit.links visit.location [.enter name] = .ok (.found target left))
    (hfile : ¬ fs.isDirectory target = true)

/-- Under a name there is a directory, or a link to one, with its visit. -/
inductive Opens (fs : FileSystem) (visit : Visit) (name : Name) : Visit → Prop
  | directory (h : fs.lookup (name :: visit.location) = some .directory) :
    Opens fs visit name (visit.descend name visit.links (name :: visit.location))
  | link {path : Path} {target : Location} {left : Nat}
    (h : fs.lookup (name :: visit.location) = some (.link path))
    (hresolve : fs.resolve true visit.links visit.location [.enter name] = .ok (.found target left))
    (hdir : fs.isDirectory target = true) (hnew : visit.ancestorAt? target = none) :
    Opens fs visit name (visit.descend name left target)

end Visit

namespace FileSystem

/-- A walk that goes through. -/
inductive Walks (fs : FileSystem) : Visit → List Name → List FoundFile → Prop
  | nil {visit : Visit} : Walks fs visit [] []
  | file {visit : Visit} {name : Name} {rest : List Name} {others : List FoundFile}
    (h : visit.Holds fs name) (hrest : Walks fs visit rest others) :
    Walks fs visit (name :: rest) (visit.file name :: others)
  | directory {visit inner : Visit} {name : Name} {rest : List Name} {found others : List FoundFile}
    (h : visit.Opens fs name inner) (hbelow : Walks fs inner (fs.children inner.location) found)
    (hrest : Walks fs visit rest others) : Walks fs visit (name :: rest) (found ++ others)

end FileSystem

namespace Visit

/-- The name of a file leads to no directory. -/
theorem Holds.resolve (hdir : fs.isDirectory visit.location = true) (h : visit.Holds fs name) :
    ∃ target left,
      fs.resolve true visit.links visit.location [.enter name] = .ok (.found target left) ∧
        ¬ fs.isDirectory target = true := by
  cases h with
  | file h =>
    refine ⟨name :: visit.location, visit.links, ?_, by simp [FileSystem.isDirectory, h]⟩
    rw [FileSystem.resolve_enter_of_some hdir h (by simp), FileSystem.resolve_nil]
  | link h hresolve hfile => exact ⟨_, _, hresolve, hfile⟩

/-- The name of a directory leads to where it is visited. -/
theorem Opens.resolve (hdir : fs.isDirectory visit.location = true)
    (h : visit.Opens fs name inner) :
    fs.resolve true visit.links visit.location [.enter name] =
      .ok (.found inner.location inner.links) := by
  cases h with
  | directory h =>
    rw [FileSystem.resolve_enter_of_some hdir h (by simp), FileSystem.resolve_nil]
    rfl
  | link h hresolve hopen hnew => exact hresolve

theorem Opens.isDirectory (h : visit.Opens fs name inner) :
    fs.isDirectory inner.location = true := by
  cases h with
  | directory h => simp [descend, FileSystem.isDirectory, h]
  | link h hresolve hopen hnew => exact hopen

end Visit

namespace FileSystem

/-- What a walk comes upon under a single name. -/
def underName (fs : FileSystem) (visit : Visit) (name : Name) : Except WalkFault (List FoundFile) :=
  match fs.lookup (name :: visit.location) with
  | none => .error (.unreachable (visit.pathOf name) .notFound)
  | some (.file _) => .ok [visit.file name]
  | some .directory =>
    fs.walkNames (visit.descend name visit.links (name :: visit.location))
      (fs.children (name :: visit.location))
  | some (.link _) =>
    match fs.resolve true visit.links visit.location [.enter name] with
    | .error fault => .error (.unreachable (visit.pathOf name) fault)
    | .ok (.vacant _) => .error (.unreachable (visit.pathOf name) .notFound)
    | .ok (.found target links) =>
      if fs.isDirectory target then
        match visit.ancestorAt? target with
        | some ancestor => .error (.loop (visit.pathOf name) ancestor.path)
        | none => fs.walkNames (visit.descend name links target) (fs.children target)
      else
        .ok [visit.file name]

theorem walkNames_cons (fs : FileSystem) (visit : Visit) (name : Name) (rest : List Name) :
    fs.walkNames visit (name :: rest) =
      match fs.underName visit name with
      | .error fault => .error fault
      | .ok found =>
        match fs.walkNames visit rest with
        | .error fault => .error fault
        | .ok others => .ok (found ++ others) := by
  rw [walkNames, underName]
  cases hentry : fs.lookup (name :: visit.location) with
  | none => rfl
  | some entry =>
    cases entry with
    | file content => rfl
    | directory => rfl
    | link path =>
      cases hresolve : fs.resolve true visit.links visit.location [.enter name] with
      | error fault => rfl
      | ok place => cases place <;> rfl

theorem underName_of_holds (h : visit.Holds fs name) :
    fs.underName visit name = .ok [visit.file name] := by
  unfold underName
  cases h with
  | file h => simp only [h]
  | link h hresolve hfile => simp only [h, hresolve, if_neg hfile]

theorem underName_of_opens (h : visit.Opens fs name inner) :
    fs.underName visit name = fs.walkNames inner (fs.children inner.location) := by
  unfold underName
  cases h with
  | directory h => simp only [h, Visit.descend]
  | link h hresolve hdir hnew => simp only [h, hresolve, if_pos hdir, hnew, Visit.descend]

theorem walkNames_of_walks (h : fs.Walks visit names files) :
    fs.walkNames visit names = .ok files := by
  induction h with
  | nil => rw [walkNames]
  | file h _ ih => rw [walkNames_cons, underName_of_holds h, ih]; rfl
  | directory h _ _ ihBelow ihRest => rw [walkNames_cons, underName_of_opens h, ihBelow, ihRest]

/-- What is under a single name is a file, or it is a directory to visit. -/
theorem holds_or_opens (h : fs.underName visit name = .ok found) :
    (visit.Holds fs name ∧ found = [visit.file name]) ∨
      ∃ inner, visit.Opens fs name inner ∧
        fs.walkNames inner (fs.children inner.location) = .ok found := by
  unfold underName at h
  cases hentry : fs.lookup (name :: visit.location) with
  | none => simp [hentry] at h
  | some entry =>
    cases entry with
    | file content =>
      simp only [hentry, Except.ok.injEq] at h
      exact .inl ⟨.file hentry, h.symm⟩
    | directory =>
      simp only [hentry] at h
      exact .inr ⟨_, .directory hentry, h⟩
    | link path =>
      cases hresolve : fs.resolve true visit.links visit.location [.enter name] with
      | error fault => simp [hentry, hresolve] at h
      | ok place =>
        cases place with
        | vacant target => simp [hentry, hresolve] at h
        | found target left =>
          by_cases hdir : fs.isDirectory target = true
          · cases hnew : visit.ancestorAt? target with
            | some ancestor => simp [hentry, hresolve, hdir, hnew] at h
            | none =>
              simp only [hentry, hresolve, if_pos hdir, hnew] at h
              exact .inr ⟨_, .link hentry hresolve hdir hnew, h⟩
          · simp only [hentry, hresolve, if_neg hdir, Except.ok.injEq] at h
            exact .inl ⟨.link hentry hresolve hdir, h.symm⟩

theorem walks_of_walkNames (h : fs.walkNames visit names = .ok files) :
    fs.Walks visit names files := by
  fun_induction walkNames fs visit names generalizing files with
  | case1 => cases h; exact .nil
  | case2 => cases h
  | case3 => cases h
  | case4 visit name rest location here found hhere others hothers ihDirectory ihLink =>
    rename_i ihRest
    cases h
    -- The recursion keeps the equations of its matches, unlike the text under the name.
    have hunder : fs.underName visit name = .ok found := by
      rw [← hhere, underName]
      simp only [here, location]
      cases hentry : fs.lookup (name :: visit.location) with
      | none => rfl
      | some entry =>
        cases entry with
        | file content => rfl
        | directory => rfl
        | link path =>
          cases hresolve : fs.resolve true visit.links visit.location [.enter name] with
          | error fault => rfl
          | ok place => cases place <;> rfl
    rcases holds_or_opens hunder with ⟨hholds, rfl⟩ | ⟨inner, hopens, hbelow⟩
    · exact .file hholds (ihRest hothers)
    · refine .directory hopens ?_ (ihRest hothers)
      cases hopens with
      | directory h => exact ihDirectory h hbelow
      | link h hresolve hdir hnew => exact ihLink _ h _ _ hresolve hbelow

/-- Walks that go through, as derivations. -/
theorem walkNames_eq_ok_iff : fs.walkNames visit names = .ok files ↔ fs.Walks visit names files :=
  ⟨walks_of_walkNames, walkNames_of_walks⟩

namespace Walks

/-- Where every name is that of a file, the walk finds these files. -/
theorem of_holds (h : ∀ name ∈ names, visit.Holds fs name) :
    fs.Walks visit names (names.map visit.file) := by
  induction names with
  | nil => exact .nil
  | cons name rest ih =>
    obtain ⟨hname, hrest⟩ := List.forall_mem_cons.mp h
    exact .file hname (ih hrest)

/-- A directory of files alone. -/
theorem of_children (hnames : fs.children visit.location = names)
    (h : ∀ name ∈ names, visit.Holds fs name) :
    fs.Walks visit (fs.children visit.location) (names.map visit.file) := by
  rw [hnames]
  exact of_holds h

/-- Every file is found by a visit that the walk comes to: what holds of the first visit and is kept
from a visit to those it opens, which are walked in turn, holds of all of them. -/
theorem exists_visit {P : Visit → Prop}
    (hstep : ∀ {visit name inner found}, P visit → visit.Opens fs name inner →
      fs.Walks inner (fs.children inner.location) found → P inner)
    (h : fs.Walks visit names files) (hvisit : P visit) :
    ∀ file ∈ files, ∃ inner, P inner ∧ inner.Holds fs file.name ∧ file = inner.file file.name := by
  induction h with
  | nil => exact List.forall_mem_nil _
  | @file visit name rest others h hrest ih =>
    exact List.forall_mem_cons.mpr ⟨⟨visit, hvisit, h, rfl⟩, ih hvisit⟩
  | directory h hbelow hrest ihBelow ihRest =>
    intro file hmem
    rcases List.mem_append.mp hmem with hmem | hmem
    · exact ihBelow (hstep hvisit h hbelow) file hmem
    · exact ihRest hvisit file hmem

/-- Every name has been met: there is a file, which is among those found, or a directory, and the
walk has found all that is found in it. -/
theorem of_mem (h : fs.Walks visit names files) (hmem : name ∈ names) :
    (visit.Holds fs name ∧ visit.file name ∈ files) ∨
      ∃ inner found, visit.Opens fs name inner ∧
        fs.Walks inner (fs.children inner.location) found ∧ found ⊆ files := by
  induction h with
  | nil => cases hmem
  | @file visit first rest others h hrest ih =>
    rcases List.mem_cons.mp hmem with rfl | hmem
    · exact .inl ⟨h, List.mem_cons_self⟩
    · rcases ih hmem with ⟨hholds, hfile⟩ | ⟨inner, found, hopens, hbelow, hfound⟩
      · exact .inl ⟨hholds, List.mem_cons_of_mem _ hfile⟩
      · exact .inr ⟨inner, found, hopens, hbelow, List.subset_cons_of_subset _ hfound⟩
  | @directory visit inner first rest found others h hbelow hrest ihBelow ihRest =>
    rcases List.mem_cons.mp hmem with rfl | hmem
    · exact .inr ⟨inner, found, h, hbelow, List.subset_append_left found others⟩
    · rcases ihRest hmem with ⟨hholds, hfile⟩ | ⟨inner, found, hopens, hbelow, hfound⟩
      · exact .inl ⟨hholds, List.mem_append_right _ hfile⟩
      · exact .inr ⟨inner, found, hopens, hbelow, List.subset_append_of_subset_right _ hfound⟩

end Walks

end FileSystem

/-! ### Walks after writing -/

namespace Visit

/-- A file that is written leaves the files that a visit meets. -/
theorem Holds.put (hx : fs.Takes x) (h : visit.Holds fs name) :
    visit.Holds (fs.put x (.file content)) name := by
  cases h with
  | @file old h =>
    by_cases hname : name :: visit.location = x
    · exact .file (by rw [FileSystem.lookup_put hx, if_pos hname])
    · exact .file (by rw [FileSystem.lookup_put hx, if_neg hname, h])
  | link h hresolve hfile =>
    exact .link ((FileSystem.lookup_put_eq_link_iff hx).mpr h) (FileSystem.resolve_put hx hresolve)
      (by rwa [FileSystem.isDirectory_put hx])

/-- A file that is written leaves the directories that a visit opens. -/
theorem Opens.put (hx : fs.Takes x) (h : visit.Opens fs name inner) :
    visit.Opens (fs.put x (.file content)) name inner := by
  cases h with
  | directory h =>
    have hdir : (fs.put x (.file content)).isDirectory (name :: visit.location) = true := by
      rw [FileSystem.isDirectory_put hx]
      simpa [FileSystem.isDirectory] using h
    exact .directory (by simpa [FileSystem.isDirectory] using hdir)
  | link h hresolve hdir hnew =>
    exact .link ((FileSystem.lookup_put_eq_link_iff hx).mpr h) (FileSystem.resolve_put hx hresolve)
      (by rwa [FileSystem.isDirectory_put hx]) hnew

end Visit

namespace FileSystem.Walks

/-- A walk after writing to a file comes upon the same files. -/
theorem put_of_file {old : Bytes} (hx : fs.lookup x = some (.file old))
    (h : fs.Walks visit names files) : (fs.put x (.file content)).Walks visit names files := by
  have htakes : fs.Takes x := .inr ⟨old, hx⟩
  induction h with
  | nil => exact .nil
  | file h hrest ih => exact .file (h.put htakes) ih
  | directory h hbelow hrest ihBelow ihRest =>
    rw [← children_put_of_file hx content] at ihBelow
    exact .directory (h.put htakes) ihBelow ihRest

/-- A walk over names with a file among them comes upon that file, and upon the others as before. -/
theorem insert {front behind : List Name} (hholds : visit.Holds fs name)
    (h : fs.Walks visit (front ++ behind) files) :
    ∃ more, fs.Walks visit (front ++ name :: behind) more ∧
      more.filter (·.name ≠ name) = files.filter (·.name ≠ name) := by
  induction front generalizing files with
  | nil => exact ⟨visit.file name :: files, .file hholds h, by simp [Visit.file]⟩
  | cons first front ih =>
    cases h with
    | file hfirst hrest =>
      obtain ⟨more, hmore, hfilter⟩ := ih hrest
      exact ⟨visit.file first :: more, .file hfirst hmore,
        by rw [List.filter_cons, List.filter_cons, hfilter]⟩
    | @directory _ inner _ _ found others hfirst hbelow hrest =>
      obtain ⟨more, hmore, hfilter⟩ := ih hrest
      exact ⟨found ++ more, .directory hfirst hbelow hmore,
        by rw [List.filter_append, List.filter_append, hfilter]⟩

/-- A visit after writing a new file, over the names that are there then. -/
theorem grow (hx : fs.lookup (name :: location) = none)
    (h : (fs.put (name :: location) (.file content)).Walks visit
      (fs.children visit.location) files) :
    ∃ more, (fs.put (name :: location) (.file content)).Walks visit
        ((fs.put (name :: location) (.file content)).children visit.location) more ∧
      more.filter (·.name ≠ name) = files.filter (·.name ≠ name) := by
  by_cases hlocation : visit.location = location
  · subst hlocation
    obtain ⟨front, behind, hbefore, hafter⟩ := children_put_of_none hx (.file content)
    have hholds : visit.Holds (fs.put (name :: visit.location) (.file content)) name :=
      .file (by rw [lookup_put (.inl hx), if_pos rfl])
    rw [hafter]
    rw [hbefore] at h
    exact h.insert hholds
  · rw [children_put_of_ne hx (.file content) hlocation]
    exact ⟨files, h, rfl⟩

/-- A walk after writing a new file comes upon the same files, that one aside. -/
theorem put_of_none (hx : fs.lookup (name :: location) = none) (h : fs.Walks visit names files) :
    ∃ more, (fs.put (name :: location) (.file content)).Walks visit names more ∧
      more.filter (·.name ≠ name) = files.filter (·.name ≠ name) := by
  have htakes : fs.Takes (name :: location) := .inl hx
  induction h with
  | nil => exact ⟨[], .nil, rfl⟩
  | @file visit first rest others h hrest ih =>
    obtain ⟨more, hmore, hfilter⟩ := ih
    exact ⟨visit.file first :: more, .file (h.put htakes) hmore,
      by rw [List.filter_cons, List.filter_cons, hfilter]⟩
  | @directory visit inner first rest found others h hbelow hrest ihBelow ihRest =>
    obtain ⟨below, hwalksBelow, hfilterBelow⟩ := ihBelow
    obtain ⟨grown, hgrown, hfilterGrown⟩ := hwalksBelow.grow hx
    obtain ⟨more, hmore, hfilter⟩ := ihRest
    exact ⟨grown ++ more, .directory (h.put htakes) hgrown hmore,
      by rw [List.filter_append, List.filter_append, hfilterGrown, hfilterBelow, hfilter]⟩

end FileSystem.Walks

/-! ### Walks from a root -/

/-- The visit with which a walk begins. -/
def Visit.start (root : Path) (location : Location) (links : Nat) : Visit :=
  ⟨links, location, root, [], [⟨location, root⟩]⟩

namespace FileSystem

variable {root : Path}

theorem walk_eq_ok_iff :
    fs.walk root = .ok files ↔
      ∃ location links, fs.locate true root = .ok (.found location links) ∧
        fs.isDirectory location = true ∧
        fs.Walks (.start root location links) (fs.children location) files := by
  unfold walk
  constructor
  · intro h
    cases hlocate : fs.locate true root with
    | error fault => simp [hlocate] at h
    | ok place =>
      cases place with
      | vacant location => simp [hlocate] at h
      | found location links =>
        by_cases hdir : fs.isDirectory location = true
        · simp only [hlocate, if_pos hdir] at h
          exact ⟨location, links, rfl, hdir, walkNames_eq_ok_iff.mp h⟩
        · simp [hlocate, hdir] at h
  · rintro ⟨location, links, hlocate, hdir, hwalks⟩
    simp only [hlocate, if_pos hdir]
    exact walkNames_eq_ok_iff.mpr hwalks

/-- A walk from a directory of files alone. -/
theorem walk_of_children (hlocate : fs.locate true root = .ok (.found location links))
    (hdir : fs.isDirectory location = true) (hnames : fs.children location = names)
    (h : ∀ name ∈ names, (Visit.start root location links).Holds fs name) :
    fs.walk root = .ok (names.map (Visit.start root location links).file) :=
  walk_eq_ok_iff.mpr ⟨location, links, hlocate, hdir, .of_children hnames h⟩

theorem walk_put_of_file {old : Bytes} (hx : fs.lookup x = some (.file old))
    (h : fs.walk root = .ok files) : (fs.put x (.file content)).walk root = .ok files := by
  have htakes : fs.Takes x := .inr ⟨old, hx⟩
  obtain ⟨location, links, hlocate, hdir, hwalks⟩ := walk_eq_ok_iff.mp h
  refine walk_eq_ok_iff.mpr ⟨location, links, locate_put htakes hlocate, ?_, ?_⟩
  · rwa [isDirectory_put htakes]
  · rw [children_put_of_file hx]
    exact hwalks.put_of_file hx

theorem walk_put_of_none (hx : fs.lookup (name :: location) = none) (content : Bytes)
    (h : fs.walk root = .ok files) :
    ∃ more, (fs.put (name :: location) (.file content)).walk root = .ok more ∧
      more.filter (·.name ≠ name) = files.filter (·.name ≠ name) := by
  have htakes : fs.Takes (name :: location) := .inl hx
  obtain ⟨start, links, hlocate, hdir, hwalks⟩ := walk_eq_ok_iff.mp h
  obtain ⟨below, hbelow, hfilterBelow⟩ := hwalks.put_of_none hx
  obtain ⟨grown, hgrown, hfilterGrown⟩ := hbelow.grow hx
  refine ⟨grown, walk_eq_ok_iff.mpr ⟨start, links, locate_put htakes hlocate, ?_, hgrown⟩,
    hfilterGrown.trans hfilterBelow⟩
  rwa [isDirectory_put htakes]

end FileSystem

/-! ### Where a walk comes -/

namespace Visit

variable {root : Path}

/-- A visit that a walk from a root comes to: its path leads to its directory, and is that of the
root extended by the names on the way. -/
structure Comes (fs : FileSystem) (root : Path) (visit : Visit) : Prop where
  reaches : fs.Reaches visit.path visit.location visit.links
  isDirectory : fs.isDirectory visit.location = true
  path_eq : visit.path = visit.above.foldl (fun path name => path.join name.bytes) root

theorem comes_start {links : Nat} (hlocate : fs.locate true root = .ok (.found location links))
    (hdir : fs.isDirectory location = true) : (start root location links).Comes fs root :=
  ⟨FileSystem.reaches_of_locate hlocate, hdir, rfl⟩

theorem ofSegment_bytes (name : Name) : Step.ofSegment name.bytes = .enter name := by
  obtain ⟨hne, hdot, hdots, -⟩ := name.isName
  simp [Step.ofSegment, hne, hdot, hdots, name.isName]

/-- The path of an entry leads where its name leads. -/
theorem Comes.resolve_pathOf (h : visit.Comes fs root) (name : Name) :
    fs.resolve true maxLinks (FileSystem.origin fs.workingDirectory (visit.pathOf name))
        (visit.pathOf name).steps =
      fs.resolve true visit.links visit.location [.enter name] := by
  rw [pathOf, h.reaches.resolve_join name.isName.2.2.2.1, ofSegment_bytes]

/-- From a visit a walk comes to those that it opens. -/
theorem Comes.opens (h : visit.Comes fs root) (hopens : visit.Opens fs name inner) :
    inner.Comes fs root := by
  have hinner : inner.path = visit.pathOf name ∧ inner.above = visit.above ++ [name] := by
    cases hopens <;> exact ⟨rfl, rfl⟩
  refine ⟨?_, hopens.isDirectory, ?_⟩
  · rw [FileSystem.Reaches, hinner.1, h.resolve_pathOf, hopens.resolve h.isDirectory]
  · simp [hinner, pathOf, h.path_eq]

/-- What a visit that goes through has met is there to be found. -/
theorem Comes.resolve_of_lookup {entry : Entry} (h : visit.Comes fs root)
    (hwalks : fs.Walks visit (fs.children visit.location) files)
    (hentry : fs.lookup (name :: visit.location) = some entry) :
    ∃ target left, fs.resolve true visit.links visit.location [.enter name] =
      .ok (.found target left) := by
  rcases hwalks.of_mem (FileSystem.mem_children_of_lookup hentry) with
    ⟨hholds, -⟩ | ⟨inner, found, hopens, -, -⟩
  · obtain ⟨target, left, hresolve, -⟩ := hholds.resolve h.isDirectory
    exact ⟨target, left, hresolve⟩
  · exact ⟨_, _, hopens.resolve h.isDirectory⟩

end Visit

namespace FileSystem

variable {root : Path}

/-- Every file is found by a visit that the walk comes to and that goes through. -/
theorem exists_visit_of_walk (h : fs.walk root = .ok files) :
    ∀ file ∈ files, ∃ visit : Visit, visit.Comes fs root ∧
      (∃ found, fs.Walks visit (fs.children visit.location) found) ∧
        file = visit.file file.name := by
  obtain ⟨location, links, hlocate, hdir, hwalks⟩ := walk_eq_ok_iff.mp h
  intro file hmem
  let Through (visit : Visit) : Prop :=
    visit.Comes fs root ∧ ∃ found, fs.Walks visit (fs.children visit.location) found
  have hstart : Through (.start root location links) :=
    ⟨Visit.comes_start hlocate hdir, files, hwalks⟩
  obtain ⟨visit, ⟨hcomes, hthrough⟩, -, hfile⟩ := hwalks.exists_visit (P := Through)
    (fun hvisit hopens hbelow => ⟨hvisit.1.opens hopens, _, hbelow⟩) hstart file hmem
  exact ⟨visit, hcomes, hthrough, hfile⟩

end FileSystem

end GoldenFiles
