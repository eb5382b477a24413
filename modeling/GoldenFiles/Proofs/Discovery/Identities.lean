import GoldenFiles.Proofs.Discovery.Sources
import Mathlib.Data.List.Count
import Mathlib.Data.List.Nodup

/-!
# Identities of cases

The identity of a case is what is shown of the names that lead to its source. Slashes keep the names
apart, but a name that is not UTF-8 is shown with replacement characters, and other names are shown
in the same way. Cases have the same identity exactly if this happens to all names that differ. The
name of the source itself can always be decoded, so it can only happen to directories.

## Main results

* `intercalate_inj` — texts without slashes are told apart when slashes are put between them
* `eq_of_map_text_eq` — names that can be decoded are told apart by what is shown of them
* `select_singleton` — what a single identity selects
* `identities_of_discovered` — when identities identify, and how many cases one of them selects
* `not_forall_nodup_ids` — two directories whose names are not told apart
-/

namespace GoldenFiles

variable {fs : FileSystem} {root : Path} {extension id : Text} {cases selected : List TestCase}
  {case : TestCase} {names others : List Name} {rows : List (List Name)}

/-! ### Names as they are shown -/

theorem intercalate_inj {mark : Char} {texts more : List Text} (hne : texts ≠ []) (hne' : more ≠ [])
    (h : ∀ text ∈ texts, mark ∉ text) (h' : ∀ text ∈ more, mark ∉ text)
    (heq : [mark].intercalate texts = [mark].intercalate more) : texts = more := by
  rw [← List.splitOn_intercalate mark h hne, heq, List.splitOn_intercalate mark h' hne']

theorem Name.slash_notMem_text (name : Name) : '/' ∉ name.text := by
  have hslash : slash ∉ name.bytes := name.isName.2.2.2.1
  exact mt (Utf8.mem_lenient_iff (b := slash) (by decide)).mp hslash

/-- A name can be decoded. -/
def Name.IsUtf8 (name : Name) : Prop := ∃ text, Utf8.decode? name.bytes = some text

theorem Name.IsUtf8.encode_text {name : Name} (h : name.IsUtf8) :
    Utf8.encode name.text = name.bytes := by
  obtain ⟨text, htext⟩ := h
  rw [Name.text, Utf8.lenient_of_decode? htext, Utf8.encode_of_decode? htext]

/-- Names that can be decoded are told apart by what is shown of them. -/
theorem eq_of_map_text_eq (h : ∀ name ∈ names, name.IsUtf8) (h' : ∀ name ∈ others, name.IsUtf8)
    (heq : names.map Name.text = others.map Name.text) : names = others := by
  have hbytes {row : List Name} (hrow : ∀ name ∈ row, name.IsUtf8) :
      row.map Name.bytes = (row.map Name.text).map Utf8.encode := by
    rw [List.map_map]
    exact List.map_congr_left fun name hmem => (hrow name hmem).encode_text.symm
  refine List.map_injective_iff.mpr (fun _ _ => Name.ext) ?_
  rw [hbytes h, hbytes h', heq]

/-! ### Identities -/

/-- What is shown of the names that lead to a source is the identity of its case and the ending. -/
def shown (names : List Name) : Text := ['/'].intercalate (names.map Name.text)

theorem TestCase.Named.shown_eq (h : case.Named root extension names) :
    shown names = case.id ++ '.' :: extension :=
  h.fileName.symm.trans h.id

theorem TestCase.Named.ne_nil (h : case.Named root extension names) : names ≠ [] := by
  obtain ⟨name, -, hlast, -⟩ := h.fixture
  rintro rfl
  cases hlast

/-- The last of the names that lead to a source can be decoded. -/
theorem TestCase.Named.isUtf8 (h : case.Named root extension names)
    (hdirectories : ∀ name ∈ names.dropLast, name.IsUtf8) : ∀ name ∈ names, name.IsUtf8 := by
  obtain ⟨last, stem, hlast, hdecoded, -⟩ := h.fixture
  obtain ⟨front, rfl⟩ := List.getLast?_eq_some_iff.mp hlast
  rw [List.dropLast_concat] at hdirectories
  intro name hmem
  rcases List.mem_append.mp hmem with hmem | hmem
  · exact hdirectories name hmem
  · rw [List.mem_singleton.mp hmem]
    exact ⟨_, hdecoded⟩

section

variable (h : List.Forall₂ (TestCase.Named root extension) rows cases)

include h

theorem map_shown_eq : rows.map shown = (cases.map (·.id)).map (· ++ '.' :: extension) := by
  induction h with
  | nil => rfl
  | cons hcase _ ih =>
    rw [List.map_cons, List.map_cons, List.map_cons, hcase.shown_eq, ih]

theorem exists_named_of_mem (hmem : names ∈ rows) :
    ∃ case : TestCase, case.Named root extension names := by
  induction h with
  | nil => cases hmem
  | cons hcase _ ih =>
    rcases List.mem_cons.mp hmem with rfl | hmem
    · exact ⟨_, hcase⟩
    · exact ih hmem

/-- Identities are told apart if the names that lead to the sources are when they are shown. -/
theorem nodup_ids_iff :
    (cases.map (·.id)).Nodup ↔ (rows.map fun row => row.map Name.text).Nodup := by
  have hsuffix : (cases.map (·.id)).Nodup ↔ (rows.map shown).Nodup := by
    rw [map_shown_eq h]
    exact (List.nodup_map_iff (List.append_left_injective _)).symm
  have hshown : rows.map shown = (rows.map fun row => row.map Name.text).map ['/'].intercalate := by
    rw [List.map_map]
    rfl
  rw [hsuffix, hshown]
  refine ⟨List.Nodup.of_map _, fun hnodup => hnodup.map_on ?_⟩
  have hrow {texts : List Text} (hmem : texts ∈ rows.map fun row => row.map Name.text) :
      texts ≠ [] ∧ ∀ text ∈ texts, '/' ∉ text := by
    obtain ⟨names, hnames, rfl⟩ := List.mem_map.mp hmem
    obtain ⟨case, hcase⟩ := exists_named_of_mem h hnames
    refine ⟨by simpa using hcase.ne_nil, ?_⟩
    intro text htext
    obtain ⟨name, -, rfl⟩ := List.mem_map.mp htext
    exact name.slash_notMem_text
  intro texts htexts more hmore
  exact intercalate_inj (hrow htexts).1 (hrow hmore).1 (hrow htexts).2 (hrow hmore).2

/-- An identity is that of as many cases as there are rows of names that are shown like it. -/
theorem count_ids :
    (cases.map (·.id)).count id = (rows.map shown).count (id ++ '.' :: extension) := by
  rw [map_shown_eq h, List.count_map_of_injective _ _ (List.append_left_injective _)]

end

/-- A single identity selects the cases that have it, and there must be one. -/
theorem select_singleton (h : select cases [id] = .ok selected) :
    selected ≠ [] ∧ selected.length = (cases.map (·.id)).count id := by
  have hselected : selected ≠ [] ∧ selected = cases.filter (·.id ∈ [id]) := by
    rw [select, if_neg (List.cons_ne_nil _ _)] at h
    cases hfilter : cases.filter (·.id ∈ [id]) with
    | nil =>
      rw [hfilter] at h
      cases h
    | cons first rest =>
      rw [hfilter] at h
      cases h
      exact ⟨List.cons_ne_nil _ _, rfl⟩
  refine ⟨hselected.1, ?_⟩
  rw [hselected.2, ← List.countP_eq_length_filter, List.count, List.countP_map]
  refine List.countP_congr fun case _ => ?_
  simp

/-- Different sources are reached by different names, but identities are what is shown of them: no
two cases have the same identity exactly if no two rows of names are shown alike, and an identity
selects as many cases as there are rows that are shown like it. If the names of all directories
below the root that lead to sources can be decoded, then no two cases have the same identity, and
every identity selects at most one case. -/
theorem identities_of_discovered (h : discover fs root extension = .ok cases) :
    ∃ rows, rows.Nodup ∧ List.Forall₂ (TestCase.Named root extension) rows cases ∧
      ((cases.map (·.id)).Nodup ↔ (rows.map fun row => row.map Name.text).Nodup) ∧
      (∀ id selected, select cases [id] = .ok selected →
        selected.length = (rows.map shown).count (id ++ '.' :: extension)) ∧
      ((∀ names ∈ rows, ∀ name ∈ names.dropLast, name.IsUtf8) →
        (cases.map (·.id)).Nodup ∧
          ∀ id selected, select cases [id] = .ok selected → ∃ case, selected = [case]) := by
  obtain ⟨files, hwalk, rfl⟩ := discover_eq_ok_iff.mp h
  let sources := files.filter fun file => (TestCase.ofFile? extension file).isSome
  have hnamed : List.Forall₂ (TestCase.Named root extension) (sources.map FoundFile.row) _ :=
    TestCase.forall₂_named (FileSystem.directory_of_walk hwalk)
  have hrows : (sources.map FoundFile.row).Nodup := by
    have hincreasing := (FileSystem.pairwise_walk hwalk).sublist
      ((List.filter_sublist (p := fun file => (TestCase.ofFile? extension file).isSome)).map _)
    refine hincreasing.imp ?_
    rintro names _ hlt rfl
    exact List.lt_irrefl _ hlt
  refine ⟨_, hrows, hnamed, nodup_ids_iff hnamed, ?_, fun hdirectories => ?_⟩
  · intro id selected hselect
    rw [(select_singleton hselect).2, count_ids hnamed]
  · have hids : ((files.filterMap (TestCase.ofFile? extension)).map (·.id)).Nodup := by
      rw [nodup_ids_iff hnamed]
      refine hrows.map_on ?_
      have hutf8 {names : List Name} (hmem : names ∈ sources.map FoundFile.row) :
          ∀ name ∈ names, name.IsUtf8 := by
        obtain ⟨case, hcase⟩ := exists_named_of_mem hnamed hmem
        exact hcase.isUtf8 (hdirectories names hmem)
      exact fun names hnames others hothers => eq_of_map_text_eq (hutf8 hnames) (hutf8 hothers)
    refine ⟨hids, fun id selected hselect => ?_⟩
    obtain ⟨hne, hlength⟩ := select_singleton hselect
    have hcount := List.nodup_iff_count_le_one.mp hids id
    have hpos := List.length_pos_of_ne_nil hne
    exact List.length_eq_one_iff.mp (by omega)

/-! ### Names that are shown alike -/

/-- A name that is no text. -/
def strayName : Name := ⟨[0xFF], by decide⟩

/-- The name that is shown for it. -/
def replacementName : Name := .ofText "\uFFFD".toList

/-- A source in each of two directories with these names. -/
def shownAlike : FileSystem :=
  let root : Location := [.ofText "p".toList]
  let source : Name := .ofText "i.s".toList
  ((((FileSystem.empty.put root .directory).put (strayName :: root) .directory).put
    (source :: strayName :: root) (.file [])).put (replacementName :: root) .directory).put
    (source :: replacementName :: root) (.file [])

/-- The case of the source in a directory. -/
def caseIn (directory : Name) : TestCase where
  id := "\uFFFD/i".toList
  fileName := "\uFFFD/i.s".toList
  source := (((Path.ofText "p".toList).join directory.bytes).join (Utf8.encode "i.s".toList))
  fixture := (((Path.ofText "p".toList).join directory.bytes).join
    (Utf8.encode "i.fixture.s".toList))

theorem discover_shownAlike : discover shownAlike (.ofText "p".toList) "s".toList =
    .ok [caseIn replacementName, caseIn strayName] := by
  let start : Visit := .start (.ofText "p".toList) [.ofText "p".toList] maxLinks
  have hnames : shownAlike.children [.ofText "p".toList] = [replacementName, strayName] :=
    FileSystem.children_eq_of_perm (by decide) (by decide)
  have hfirst : shownAlike.children [replacementName, .ofText "p".toList] =
      [.ofText "i.s".toList] :=
    FileSystem.children_eq_of_perm (by decide) (by decide)
  have hsecond : shownAlike.children [strayName, .ofText "p".toList] = [.ofText "i.s".toList] :=
    FileSystem.children_eq_of_perm (by decide) (by decide)
  have hlocate : shownAlike.locate true (.ofText "p".toList) =
      .ok (.found [.ofText "p".toList] maxLinks) := by
    cbv
  have hopens : start.Opens shownAlike replacementName _ := .directory rfl
  have hopens' : start.Opens shownAlike strayName _ := .directory rfl
  have hwalks : shownAlike.Walks start (shownAlike.children [.ofText "p".toList])
      [⟨(Path.ofText "p".toList).join replacementName.bytes, [replacementName],
          .ofText "i.s".toList⟩,
        ⟨(Path.ofText "p".toList).join strayName.bytes, [strayName], .ofText "i.s".toList⟩] := by
    rw [hnames]
    refine .directory hopens (.of_children hfirst ?_)
      (.directory hopens' (.of_children hsecond ?_) .nil)
    · exact List.forall_mem_singleton.mpr (.file rfl)
    · exact List.forall_mem_singleton.mpr (.file rfl)
  have hwalk := FileSystem.walk_eq_ok_iff.mpr ⟨_, _, hlocate, rfl, hwalks⟩
  exact discover_eq_ok_iff.mpr ⟨_, hwalk, by decide +kernel⟩

/-- The two rows of names are shown alike, so that the identity selects both cases. -/
theorem identities_of_discovered_shownAlike :
    discover shownAlike (.ofText "p".toList) "s".toList =
        .ok [caseIn replacementName, caseIn strayName] ∧
      ∃ rows, rows.Nodup ∧ List.Forall₂ (TestCase.Named (.ofText "p".toList) "s".toList) rows
          [caseIn replacementName, caseIn strayName] ∧
        ¬ (rows.map fun row => row.map Name.text).Nodup ∧
        (rows.map shown).count "\uFFFD/i.s".toList = 2 := by
  obtain ⟨rows, hrows, hnamed, hids, hselect, -⟩ := identities_of_discovered discover_shownAlike
  refine ⟨discover_shownAlike, rows, hrows, hnamed, fun h => ?_, ?_⟩
  · exact absurd (hids.mpr h) (by decide)
  · exact (hselect "\uFFFD/i".toList [caseIn replacementName, caseIn strayName] (by decide)).symm

/-- Two cases in different directories have the same identity, and both are selected by it. -/
theorem not_forall_nodup_ids :
    ¬ (∀ (fs : FileSystem) (root : Path) (extension : Text) (cases : List TestCase),
        discover fs root extension = .ok cases → (cases.map (·.id)).Nodup) ∧
    ¬ (∀ (fs : FileSystem) (root : Path) (extension id : Text) (cases selected : List TestCase),
        discover fs root extension = .ok cases → select cases [id] = .ok selected →
          selected.length ≤ 1) := by
  refine ⟨fun h => ?_, fun h => ?_⟩
  · exact absurd (h _ _ _ _ discover_shownAlike) (by decide)
  · have hselect : select [caseIn replacementName, caseIn strayName] ["\uFFFD/i".toList] =
        .ok [caseIn replacementName, caseIn strayName] := by
      decide
    exact absurd (h _ _ _ _ _ _ discover_shownAlike hselect) (by decide)

end GoldenFiles
