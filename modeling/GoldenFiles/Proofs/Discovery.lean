import GoldenFiles.Discovery
import GoldenFiles.Proofs.FileSystem.Grounded
import GoldenFiles.Proofs.FileSystem.LinkFree
import GoldenFiles.Proofs.TestCase

/-!
# Discovery and fixtures

Writing a fixture changes nothing that discovery looks at, since no fixture is taken for a source.
In a file system without links the fixtures of different cases are different files, and none of them
is a source.

## Main definitions

* `TestCase.Placed` — a case with the visit that has found its source

## Main results

* `discover_eq_ok_iff` — the cases are those of the files that a walk comes upon
* `discover_put_of_file`, `discover_put_of_none` — discovery after writing
* `discover_put_fixture`, `discover_write_fixture` — discovery after writing a fixture
* `fixture_ne_source`, `eq_of_fixture_eq` — fixtures are no sources, and each belongs to one case
-/

namespace GoldenFiles

variable {fs after : FileSystem} {root : Path} {extension : Text} {cases : List TestCase}
  {case other : TestCase} {files more : List FoundFile} {x location : Location} {name : Name}
  {content : Bytes} {place source : Place}

/-! ### The cases of a walk -/

theorem isFile_of_walk (h : fs.walk root = .ok files) : fs.isFile root = false := by
  obtain ⟨location, links, hlocate, hdir, -⟩ := FileSystem.walk_eq_ok_iff.mp h
  have hlookup : fs.lookup location = some .directory := by
    simpa [FileSystem.isDirectory] using hdir
  simp [FileSystem.isFile, FileSystem.entry, hlocate, hlookup]

/-- The cases are those of the files that a walk comes upon. -/
theorem discover_eq_ok_iff :
    discover fs root extension = .ok cases ↔
      ∃ files, fs.walk root = .ok files ∧
        files.filterMap (TestCase.ofFile? extension) = cases := by
  unfold discover
  constructor
  · intro h
    split at h
    · cases h
    · cases hwalk : fs.walk root with
      | error fault => simp [hwalk] at h
      | ok files =>
        simp only [hwalk, Except.ok.injEq] at h
        exact ⟨files, rfl, h⟩
  · rintro ⟨files, hwalk, rfl⟩
    simp [isFile_of_walk hwalk, hwalk]

/-- Without a selection, all cases there are are asked for. -/
theorem Config.cases_of_discover {config : Config} (hselection : config.selection = [])
    (hne : cases ≠ []) (h : discover fs config.root config.extension = .ok cases) :
    config.cases fs = .ok cases := by
  unfold Config.cases
  cases cases with
  | nil => exact absurd rfl hne
  | cons case rest => simp only [h, hselection, select, if_true]

/-! ### Discovery after writing -/

theorem discover_put_of_file {old : Bytes} (hx : fs.lookup x = some (.file old))
    (h : discover fs root extension = .ok cases) :
    discover (fs.put x (.file content)) root extension = .ok cases := by
  obtain ⟨files, hwalk, hcases⟩ := discover_eq_ok_iff.mp h
  exact discover_eq_ok_iff.mpr ⟨files, FileSystem.walk_put_of_file hx hwalk, hcases⟩

/-- Files that make no case can be left out. -/
theorem filterMap_ofFile?_filter (hnone : ∀ file, file.name = name →
    TestCase.ofFile? extension file = none) (files : List FoundFile) :
    (files.filter (·.name ≠ name)).filterMap (TestCase.ofFile? extension) =
      files.filterMap (TestCase.ofFile? extension) := by
  rw [List.filterMap_filter]
  apply congrArg (List.filterMap · files)
  funext file
  by_cases hname : file.name = name
  · simp [hname, hnone file hname]
  · simp [hname]

theorem discover_put_of_none (hx : fs.lookup (name :: location) = none)
    (hnone : ∀ file, file.name = name → TestCase.ofFile? extension file = none)
    (h : discover fs root extension = .ok cases) :
    discover (fs.put (name :: location) (.file content)) root extension = .ok cases := by
  obtain ⟨files, hwalk, hcases⟩ := discover_eq_ok_iff.mp h
  obtain ⟨more, hmore, hfilter⟩ := FileSystem.walk_put_of_none hx content hwalk
  refine discover_eq_ok_iff.mpr ⟨more, hmore, ?_⟩
  rw [← hcases, ← filterMap_ofFile?_filter hnone, hfilter, filterMap_ofFile?_filter hnone]

/-- A file that is written changes nothing that discovery looks at if a new one has the name of a
fixture: that makes no case, and a file that was there keeps its name. -/
theorem discover_put_fixture (hx : fs.Takes x)
    (hnew : fs.lookup x = none → ∃ (stem : Text) (fixture : Name) (directory : Location),
      x = fixture :: directory ∧ fixture.bytes = Utf8.encode (TestCase.fixtureText stem extension))
    (h : discover fs root extension = .ok cases) :
    discover (fs.put x (.file content)) root extension = .ok cases := by
  rcases hx with hnone | ⟨old, hfile⟩
  · obtain ⟨stem, fixture, directory, rfl, hbytes⟩ := hnew hnone
    refine discover_put_of_none hnone ?_ h
    intro file hname
    exact TestCase.ofFile?_eq_none_of_fixture (hname ▸ hbytes)
  · exact discover_put_of_file hfile h

/-- Where there is no fixture yet, its place is in the directory in which the source has been found:
whatever is in that directory has been met by the walk, and leads somewhere. -/
theorem location_of_fixture_vacant (h : discover fs root extension = .ok cases)
    (hcase : case ∈ cases)
    (hplace : fs.locate true case.fixture = .ok (.vacant x)) :
    ∃ (stem : Text) (fixture : Name) (directory : Location), x = fixture :: directory ∧
      fixture.bytes = Utf8.encode (TestCase.fixtureText stem extension) := by
  obtain ⟨files, hwalk, rfl⟩ := discover_eq_ok_iff.mp h
  obtain ⟨file, hfile, hfound⟩ := List.mem_filterMap.mp hcase
  obtain ⟨visit, hcomes, ⟨below, hbelow⟩, hvisit⟩ :=
    FileSystem.exists_visit_of_walk hwalk file hfile
  obtain ⟨stem, hstems⟩ := TestCase.exists_stems hfound
  rw [hvisit] at hstems
  obtain ⟨fixture, hbytes, hresolve⟩ := hstems.locate_fixture hcomes hplace
  cases hentry : fs.lookup (fixture :: visit.location) with
  | none =>
    rw [FileSystem.resolve_enter_of_none hcomes.isDirectory hentry, if_pos rfl] at hresolve
    cases hresolve
    exact ⟨stem, fixture, visit.location, rfl, hbytes⟩
  | some entry =>
    obtain ⟨target, left, htarget⟩ := hcomes.resolve_of_lookup hbelow hentry
    rw [htarget] at hresolve
    cases hresolve

/-- Writing a fixture leaves the cases as they are, wherever links lead. -/
theorem discover_write_fixture (h : discover fs root extension = .ok cases) (hcase : case ∈ cases)
    (hwrite : fs.write case.fixture content = .ok after) :
    discover after root extension = .ok cases := by
  obtain ⟨place, hplace, hdir, rfl⟩ := FileSystem.exists_of_write_eq_ok hwrite
  refine discover_put_fixture (FileSystem.takes_of_locate hplace hdir) ?_ h
  intro hnone
  cases place with
  | vacant x => exact location_of_fixture_vacant h hcase hplace
  | found x left =>
    obtain ⟨old, hold⟩ := FileSystem.exists_content (FileSystem.resolve_of_locate hplace)
      (by simpa [Place.location] using hdir)
    rw [Place.location, hold] at hnone
    cases hnone

/-! ### Places of cases -/

/-- A case with the visit that has found its source, in a file system without links. -/
structure TestCase.Placed (fs : FileSystem) (root : Path) (extension : Text) (base : Location)
    (case : TestCase) (visit : Visit) (name : Name) (stem : Text) : Prop where
  straight : visit.Straight fs root base
  found : ofFile? extension (visit.file name) = some case
  stems : case.Stems extension (visit.file name) stem

theorem exists_placed (hlinks : fs.LinkFree) (h : discover fs root extension = .ok cases) :
    ∃ base, ∀ case ∈ cases, ∃ visit name stem,
      TestCase.Placed fs root extension base case visit name stem := by
  obtain ⟨files, hwalk, rfl⟩ := discover_eq_ok_iff.mp h
  obtain ⟨base, hfiles⟩ := hlinks.exists_visit hwalk
  refine ⟨base, ?_⟩
  intro case hmem
  obtain ⟨file, hfile, hcase⟩ := List.mem_filterMap.mp hmem
  obtain ⟨visit, hvisit, hfound⟩ := hfiles file hfile
  rw [hfound] at hcase
  obtain ⟨stem, hstems⟩ := TestCase.exists_stems hcase
  exact ⟨visit, file.name, stem, hvisit, hcase, hstems⟩

namespace TestCase.Placed

variable {base : Location} {visit : Visit} {stem : Text}

theorem source_location (hlinks : fs.LinkFree)
    (h : Placed fs root extension base case visit name stem)
    (hplace : fs.locate true case.source = .ok place) : place.location = name :: visit.location :=
  hlinks.location_of_resolve (h.stems.locate_source h.straight.toComes hplace)

theorem fixture_location (hlinks : fs.LinkFree)
    (h : Placed fs root extension base case visit name stem)
    (hplace : fs.locate true case.fixture = .ok place) :
    ∃ fixture : Name, fixture.bytes = Utf8.encode (fixtureText stem extension) ∧
      place.location = fixture :: visit.location := by
  obtain ⟨fixture, hbytes, hresolve⟩ := h.stems.locate_fixture h.straight.toComes hplace
  exact ⟨fixture, hbytes, hlinks.location_of_resolve hresolve⟩

end TestCase.Placed

/-- No fixture is a source. -/
theorem fixture_ne_source (hlinks : fs.LinkFree) (h : discover fs root extension = .ok cases)
    (hcase : case ∈ cases) (hother : other ∈ cases)
    (hfixture : fs.locate true case.fixture = .ok place)
    (hsource : fs.locate true other.source = .ok source) : source.location ≠ place.location := by
  obtain ⟨base, hplaced⟩ := exists_placed hlinks h
  obtain ⟨visit, name, stem, hcasePlaced⟩ := hplaced case hcase
  obtain ⟨inner, otherName, otherStem, hotherPlaced⟩ := hplaced other hother
  obtain ⟨fixture, hbytes, hlocation⟩ := hcasePlaced.fixture_location hlinks hfixture
  rw [hlocation, hotherPlaced.source_location hlinks hsource]
  intro heq
  obtain ⟨rfl, -⟩ := List.cons.inj heq
  exact hotherPlaced.stems.fixture_ne_name hbytes.symm

/-- A fixture belongs to one case only. -/
theorem eq_of_fixture_eq (hlinks : fs.LinkFree) (h : discover fs root extension = .ok cases)
    (hcase : case ∈ cases) (hother : other ∈ cases) {otherPlace : Place}
    (hfixture : fs.locate true case.fixture = .ok place)
    (hotherFixture : fs.locate true other.fixture = .ok otherPlace)
    (heq : place.location = otherPlace.location) : case = other := by
  obtain ⟨base, hplaced⟩ := exists_placed hlinks h
  obtain ⟨visit, name, stem, hcasePlaced⟩ := hplaced case hcase
  obtain ⟨inner, otherName, otherStem, hotherPlaced⟩ := hplaced other hother
  obtain ⟨fixture, hbytes, hlocation⟩ := hcasePlaced.fixture_location hlinks hfixture
  obtain ⟨otherFixture, hotherBytes, hotherLocation⟩ :=
    hotherPlaced.fixture_location hlinks hotherFixture
  rw [hlocation, hotherLocation] at heq
  -- Fixtures at one location have one name and directory, and so have their sources.
  obtain ⟨rfl, hvisits⟩ := List.cons.inj heq
  have hname : name = otherName :=
    hcasePlaced.stems.name_inj hotherPlaced.stems (hbytes.symm.trans hotherBytes)
  have hfile : visit.file name = inner.file otherName :=
    hcasePlaced.straight.file_inj hotherPlaced.straight (by rw [hname, hvisits])
  have hfound := hcasePlaced.found
  rw [hfile, hotherPlaced.found] at hfound
  exact (Option.some.inj hfound).symm

end GoldenFiles
