import GoldenFiles.Proofs.Discovery
import GoldenFiles.Proofs.FileSystem.Contents
import Mathlib.Data.List.Forall2

/-!
# Discovery finds the sources

Discovery finds every source below the test root, nothing else, and each of them once, in the order
of the names that lead to it. A walk finds all files in this order, and of a file it depends on the
name alone whether it makes a case: what recognises a source by its name and what takes the name
apart afterwards never disagree.

## Main definitions

* `Name.IsSource` — the names of sources
* `TestCase.Named` — the case of the source to which a row of names leads

## Main results

* `TestCase.isSome_ofFile?_iff` — a file makes a case if its name is that of a source
* `TestCase.Named.mem_fileName_iff` — what is in the file name of a case is in a name of a file
* `nodup_of_discover` — no case comes twice
* `discover_exact` — all sources, each one once, in their order
-/

namespace GoldenFiles

/-- The name can be decoded, begins with neither an underscore nor a dot, and ends as sources do and
not as fixtures do. -/
def Name.IsSource (extension : Text) (name : Name) : Prop :=
  ∃ text, Utf8.decode? name.bytes = some text ∧ text.head? ≠ some '_' ∧ text.head? ≠ some '.' ∧
    '.' :: extension <:+ text ∧ ¬ ".fixture.".toList ++ extension <:+ text

/-- The case of the source to which names lead from the test root. -/
structure TestCase.Named (root : Path) (extension : Text) (names : List Name) (case : TestCase) :
    Prop where
  source : case.source = root.below names
  fileName : case.fileName = ['/'].intercalate (names.map Name.text)
  id : case.fileName = case.id ++ '.' :: extension
  /-- The fixture is in the directory of the source, under the stem of its name with the mark. -/
  fixture : ∃ name stem, names.getLast? = some name ∧
    Utf8.decode? name.bytes = some (stem ++ '.' :: extension) ∧
      case.fixture.Same ((root.below names.dropLast).join
        (Utf8.encode (stem ++ ".fixture.".toList ++ extension)))

variable {fs : FileSystem} {root : Path} {extension name : Text} {files : List FoundFile}
  {file : FoundFile} {case : TestCase}

namespace TestCase

/-! ### Names of sources -/

/-- Names of sources are recognised by their beginning and their ending: what ends as sources do and
is no longer than that begins with a dot. -/
theorem isCaseFile_iff : isCaseFile name extension = true ↔
    name.head? ≠ some '_' ∧ name.head? ≠ some '.' ∧
      '.' :: extension <:+ name ∧ ¬ ".fixture.".toList ++ extension <:+ name := by
  rw [← sourceSuffix_eq, ← fixtureSuffix_eq]
  simp only [isCaseFile, Bool.and_eq_true, bne_iff_ne, ne_eq, decide_eq_true_eq,
    List.isSuffixOf_iff_suffix, Bool.not_eq_true', Bool.eq_false_iff, and_assoc]
  constructor
  · rintro ⟨hprivate, hhidden, -, hsource, hfixture⟩
    exact ⟨hprivate, hhidden, hsource, hfixture⟩
  rintro ⟨hprivate, hhidden, hsource, hfixture⟩
  refine ⟨hprivate, hhidden, ?_, hsource, hfixture⟩
  obtain ⟨stem, rfl⟩ := hsource
  cases stem with
  | nil => exact absurd rfl hhidden
  | cons c stem =>
    rw [List.length_append, List.length_cons]
    omega

/-- The file name of a case ends in the name of its source. -/
theorem exists_relative (file : FoundFile) : ∃ front, relative file = front ++ file.name.text := by
  unfold relative
  induction file.above with
  | nil => exact ⟨[], List.intercalate_singleton⟩
  | cons first above ih =>
    obtain ⟨front, hfront⟩ := ih
    refine ⟨first.text ++ '/' :: front, ?_⟩
    rw [List.cons_append, List.map_cons, List.intercalate_cons_of_ne_nil (by simp), hfront]
    simp

/-- A file whose name is that of a source makes a case. -/
theorem exists_of_isCaseFile (hname : Utf8.decode? file.name.bytes = some name)
    (h : isCaseFile name extension = true) : ∃ case, ofFile? extension file = some case := by
  obtain ⟨-, hhidden, ⟨stem, hstem⟩, -⟩ := isCaseFile_iff.mp h
  rw [← sourceSuffix_eq] at hstem
  obtain ⟨front, hfront⟩ := exists_relative file
  have hrelative : relative file = (front ++ stem) ++ sourceSuffix extension := by
    rw [hfront, Name.text, Utf8.lenient_of_decode? hname, ← hstem, List.append_assoc]
  have hne : stem ≠ [] := by
    rintro rfl
    exact hhidden (hstem ▸ rfl)
  simp [ofFile?, hname, h, Text.stripSuffix?_eq_some_iff.mpr hrelative,
    Text.stripSuffix?_eq_some_iff.mpr hstem.symm, hne]

/-- A file makes a case if its name is that of a source. -/
theorem isSome_ofFile?_iff : (ofFile? extension file).isSome ↔ file.name.IsSource extension := by
  rw [Option.isSome_iff_exists]
  constructor
  · rintro ⟨case, hcase⟩
    obtain ⟨stem, hstems⟩ := exists_stems hcase
    exact ⟨_, hstems.name, isCaseFile_iff.mp hstems.isCaseFile⟩
  · rintro ⟨text, htext, hnamed⟩
    exact exists_of_isCaseFile htext (isCaseFile_iff.mpr hnamed)

/-! ### Cases of sources -/

/-- The case of a file is that of the names under which the file has been found. -/
theorem named_of_ofFile? (hdirectory : file.directory = root.below file.above)
    (h : ofFile? extension file = some case) : case.Named root extension file.row := by
  obtain ⟨stem, hstems⟩ := exists_stems h
  obtain ⟨hfileName, hid⟩ := fileName_of_ofFile? h
  refine ⟨?_, hfileName, hfileName.trans hid, file.name, stem, ?_, hstems.name, ?_⟩
  · rw [hstems.source, hdirectory, FoundFile.row, Path.below, Path.below, List.foldl_append]
    rfl
  · exact List.getLast?_concat
  · rw [hstems.fixture, hdirectory, FoundFile.row, List.dropLast_concat, ← fixtureText_eq]
    exact Path.same_trimmed_join _ hstems.slash_not_mem (Stems.isIdle_fixtureText stem extension)

/-- The files that make cases, and their cases. -/
theorem forall₂_named (h : ∀ file ∈ files, file.directory = root.below file.above) :
    List.Forall₂ (Named root extension)
      ((files.filter fun file => (ofFile? extension file).isSome).map FoundFile.row)
      (files.filterMap (ofFile? extension)) := by
  induction files with
  | nil => exact .nil
  | cons file rest ih =>
    obtain ⟨hfile, hrest⟩ := List.forall_mem_cons.mp h
    cases hcase : ofFile? extension file with
    | none => simpa [hcase] using ih hrest
    | some case =>
      simp only [List.filter_cons, hcase, Option.isSome_some, if_true, List.map_cons,
        List.filterMap_cons]
      exact .cons (named_of_ofFile? hfile hcase) (ih hrest)

/-- A character of one byte is in the file name of a case if its byte is in one of the names that
lead to the source. -/
theorem Named.mem_fileName_iff {names : List Name} (h : case.Named root extension names) {b : UInt8}
    (hb : b.toNat < 0x80) (hslash : Char.ofNat b.toNat ≠ '/') :
    Char.ofNat b.toNat ∈ case.fileName ↔ ∃ name ∈ names, b ∈ name.bytes := by
  rw [h.fileName, mem_intercalate_iff hslash]
  simp only [List.mem_map, exists_exists_and_eq_and, Name.text, Utf8.mem_lenient_iff hb]

end TestCase

/-! ### All sources -/

/-- A walk goes through only if its path is not empty. -/
theorem bytes_ne_nil_of_walk (h : fs.walk root = .ok files) : root.bytes ≠ [] := by
  obtain ⟨location, links, hlocate, -⟩ := FileSystem.walk_eq_ok_iff.mp h
  intro hnil
  simp [FileSystem.locate, FileSystem.spellingFault?, hnil] at hlocate

/-- A case that discovery has found is that of a file below the root. -/
theorem exists_file_of_discover {cases : List TestCase} (h : discover fs root extension = .ok cases)
    (hcase : case ∈ cases) : ∃ file : FoundFile, root.bytes ≠ [] ∧
      file.directory = root.below file.above ∧ TestCase.ofFile? extension file = some case := by
  obtain ⟨files, hwalk, rfl⟩ := discover_eq_ok_iff.mp h
  obtain ⟨file, hfile, hfound⟩ := List.mem_filterMap.mp hcase
  exact ⟨file, bytes_ne_nil_of_walk hwalk, FileSystem.directory_of_walk hwalk file hfile, hfound⟩

theorem exists_named {cases : List TestCase} (h : discover fs root extension = .ok cases)
    (hcase : case ∈ cases) : ∃ names, case.Named root extension names := by
  obtain ⟨file, -, hdirectory, hfound⟩ := exists_file_of_discover h hcase
  exact ⟨_, TestCase.named_of_ofFile? hdirectory hfound⟩

theorem below_injective (hne : root.bytes ≠ []) {names others : List Name}
    (h : root.below names = root.below others) : names = others := by
  have hparts := congrArg Path.parts h
  rw [Path.parts_below hne, Path.parts_below hne] at hparts
  exact List.map_injective_iff.mpr (fun _ _ => Name.ext) (List.append_cancel_left hparts)

/-- No case comes twice. -/
theorem nodup_of_discover {cases : List TestCase} (h : discover fs root extension = .ok cases) :
    cases.Nodup := by
  obtain ⟨files, hwalk, rfl⟩ := discover_eq_ok_iff.mp h
  have hdirectory := FileSystem.directory_of_walk hwalk
  have hpairwise := List.Pairwise.and_mem.mp (List.pairwise_map.mp (FileSystem.pairwise_walk hwalk))
  refine hpairwise.filterMap _ ?_
  rintro file later ⟨hfile, hlater, hlt⟩ case hcase other hother rfl
  have hsource := (TestCase.named_of_ofFile? (hdirectory file hfile) hcase).source
  rw [(TestCase.named_of_ofFile? (hdirectory later hlater) hother).source] at hsource
  rw [below_injective (bytes_ne_nil_of_walk hwalk) hsource] at hlt
  exact List.lt_irrefl _ hlt

/-- Discovery is complete, exact and ordered: where a walk goes through, there is one case for each
row of names below the root that leads to a file with the name of a source, and no other case, and
the rows strictly increase. No file whose name is recognised as that of a source is dropped. -/
theorem discover_exact (hwalk : fs.walk root = .ok files)
    (extension : Text) :
    (∃ rows cases, discover fs root extension = .ok cases ∧
      (∀ names, names ∈ rows ↔ fs.FileBelow root names ∧
        ∃ name, names.getLast? = some name ∧ name.IsSource extension) ∧
      rows.Pairwise (fun a b => a.map Name.bytes < b.map Name.bytes) ∧
      List.Forall₂ (TestCase.Named root extension) rows cases) ∧
    (∀ file text, Utf8.decode? file.name.bytes = some text → isCaseFile text extension = true →
      ∃ case, TestCase.ofFile? extension file = some case) := by
  refine ⟨?_, fun file text => TestCase.exists_of_isCaseFile⟩
  let sources := files.filter fun file => (TestCase.ofFile? extension file).isSome
  refine ⟨sources.map FoundFile.row, _, discover_eq_ok_iff.mpr ⟨files, hwalk, rfl⟩, ?_, ?_,
    TestCase.forall₂_named (FileSystem.directory_of_walk hwalk)⟩
  · intro names
    rw [← FileSystem.mem_walk_iff hwalk, List.mem_map, List.mem_map]
    constructor
    · rintro ⟨file, hfile, rfl⟩
      obtain ⟨hmem, hcase⟩ := List.mem_filter.mp hfile
      exact ⟨⟨file, hmem, rfl⟩, file.name, List.getLast?_concat,
        TestCase.isSome_ofFile?_iff.mp hcase⟩
    · rintro ⟨⟨file, hmem, rfl⟩, name, hlast, hsource⟩
      rw [FoundFile.row, List.getLast?_concat] at hlast
      cases hlast
      exact ⟨file, List.mem_filter.mpr ⟨hmem, TestCase.isSome_ofFile?_iff.mpr hsource⟩, rfl⟩
  · have hincreasing := FileSystem.pairwise_walk hwalk
    exact hincreasing.sublist (List.filter_sublist.map FoundFile.row)

/-- A source beside a directory with another one, and a link to that directory. -/
def nestedSources : FileSystem :=
  let root : Location := [.ofText "r".toList]
  let inner : Location := .ofText "d".toList :: root
  ((((FileSystem.empty.put root .directory).put (.ofText "d.s".toList :: root) (.file [])).put
    inner .directory).put (.ofText "x.s".toList :: inner) (.file [])).put
    (.ofText "l".toList :: root) (.link (.ofText "d".toList))

theorem walk_nestedSources :
    nestedSources.walk (.ofText "r".toList) = .ok
      [⟨.ofText "r/d".toList, [.ofText "d".toList], .ofText "x.s".toList⟩,
        ⟨.ofText "r".toList, [], .ofText "d.s".toList⟩,
        ⟨.ofText "r/l".toList, [.ofText "l".toList], .ofText "x.s".toList⟩] := by
  let start : Visit := .start (.ofText "r".toList) [.ofText "r".toList] maxLinks
  have hchildren : nestedSources.children [.ofText "r".toList] =
      [.ofText "d".toList, .ofText "d.s".toList, .ofText "l".toList] :=
    FileSystem.children_eq_of_perm (by decide) (by decide)
  have hinner : nestedSources.children [.ofText "d".toList, .ofText "r".toList] =
      [.ofText "x.s".toList] :=
    FileSystem.children_eq_of_perm (by decide) (by decide)
  have hbelow (visit : Visit)
      (hvisit : visit.location = [.ofText "d".toList, .ofText "r".toList]) :
      nestedSources.Walks visit (nestedSources.children visit.location)
        [visit.file (.ofText "x.s".toList)] := by
    have hentry : nestedSources.lookup
        [.ofText "x.s".toList, .ofText "d".toList, .ofText "r".toList] = some (.file []) := by
      cbv
    exact .of_children (hvisit ▸ hinner)
      (List.forall_mem_singleton.mpr (.file (hvisit ▸ hentry)))
  refine FileSystem.walk_eq_ok_iff.mpr ⟨[.ofText "r".toList], maxLinks, by cbv, by cbv, ?_⟩
  rw [hchildren]
  have hdirectory : start.Opens nestedSources (.ofText "d".toList) _ := .directory (by cbv)
  have hlink : start.Opens nestedSources (.ofText "l".toList)
      (start.descend (.ofText "l".toList) 39 [.ofText "d".toList, .ofText "r".toList]) :=
    .link (by cbv) (by cbv) (by cbv) (by cbv)
  exact .directory hdirectory (hbelow _ rfl)
    (.file (.file (by cbv)) (.directory hlink (hbelow _ rfl) .nil))

/-- The source in the directory is found through the link as well. -/
theorem discover_exact_nestedSources :
    ∃ rows cases, discover nestedSources (.ofText "r".toList) "s".toList = .ok cases ∧
      rows.Pairwise (fun a b => a.map Name.bytes < b.map Name.bytes) ∧
      List.Forall₂ (TestCase.Named (.ofText "r".toList) "s".toList) rows cases ∧
      [.ofText "l".toList, .ofText "x.s".toList] ∈ rows := by
  obtain ⟨⟨rows, cases, hdiscover, hrows, hincreasing, hnamed⟩, -⟩ :=
    discover_exact walk_nestedSources "s".toList
  refine ⟨rows, cases, hdiscover, hincreasing, hnamed, (hrows _).mpr ⟨?_, ?_⟩⟩
  · exact ⟨[.ofText "r".toList], maxLinks,
      [.ofText "x.s".toList, .ofText "d".toList, .ofText "r".toList], 39, [], by cbv, by cbv,
      by cbv⟩
  · exact ⟨.ofText "x.s".toList, rfl, "x.s".toList, Utf8.decode?_encode _, by decide, by decide,
      by decide, by decide⟩

end GoldenFiles
