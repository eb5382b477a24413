import GoldenFiles.Proofs.Discovery.Sources
import GoldenFiles.Proofs.Run.LineEndings

/-!
# Labels of fixtures

A fixture is compared under the name that it has below the test root. This name is made of the
identity of the case and an extension, which is taken to be what follows the last dot of the file
name, while the fixture itself has the extension that sources are looked for with. The two are the
same exactly if that extension has no dot in it; of an extension with dots, the label has only the
last part.

## Main definitions

* `Path.Shows` — the names that lead from a root to something below it, as they are shown

## Main results

* `Text.afterLast?_append_cons` — what follows the last mark
* `TestCase.Stems.parts_fixture` — the names that lead to a fixture
* `fixtureName_of_discovered` — the label of a fixture and the names that lead to it
* `not_forall_shows_fixtureName` — a label that names another file than the one that is read
-/

namespace GoldenFiles

/-! ### What follows the last mark -/

namespace Text

variable {mark : Char} {text front back : Text}

theorem afterLast?_append_cons (front : Text) (h : mark ∉ back) :
    afterLast? mark (front ++ mark :: back) = some back := by
  have hback : ∀ c ∈ back.reverse, decide (c ≠ mark) = true := by
    intro c hc
    have hne : c ≠ mark := fun heq => h (heq ▸ List.mem_reverse.mp hc)
    exact decide_eq_true hne
  have hreverse : (front ++ mark :: back).reverse = back.reverse ++ mark :: front.reverse := by simp
  rw [afterLast?, if_pos (by simp), hreverse, List.takeWhile_append_of_pos hback,
    List.takeWhile_cons_of_neg (by simp), List.append_nil, List.reverse_reverse]

theorem exists_last_of_mem (h : mark ∈ text) :
    ∃ front back, text = front ++ mark :: back ∧ mark ∉ back := by
  obtain ⟨back, front, hreverse, hback⟩ := List.eq_append_cons_of_mem (List.mem_reverse.mpr h)
  refine ⟨front.reverse, back.reverse, ?_, fun hmem => hback (List.mem_reverse.mp hmem)⟩
  rw [← text.reverse_reverse, hreverse]
  simp

end Text

/-! ### Names below a root -/

/-- A text is what is shown of the names that lead from a root to something below it: the components
of the path behind those of the root, with slashes between them. -/
def Path.Shows (root path : Path) (text : Text) : Prop :=
  ∃ row, path.parts = root.parts ++ row ∧ text = ['/'].intercalate (row.map Utf8.lenient)

variable {fs : FileSystem} {root path : Path} {extension stem text other : Text}
  {cases : List TestCase} {case : TestCase} {file : FoundFile}

theorem Path.Shows.unique (h : root.Shows path text) (hother : root.Shows path other) :
    text = other := by
  obtain ⟨row, hrow, rfl⟩ := h
  obtain ⟨others, hothers, rfl⟩ := hother
  rw [List.append_cancel_left (hrow.symm.trans hothers)]

/-- What is put behind the last text is put behind all of them. -/
theorem intercalate_concat_append (mark : Text) (texts : List Text) (a b : Text) :
    mark.intercalate (texts ++ [a ++ b]) = mark.intercalate (texts ++ [a]) ++ b := by
  induction texts with
  | nil => simp [List.intercalate]
  | cons text rest ih =>
    rw [List.cons_append, List.cons_append, List.intercalate_cons_of_ne_nil (by simp),
      List.intercalate_cons_of_ne_nil (by simp), ih, List.append_assoc, List.append_assoc,
      List.append_assoc]

namespace TestCase

/-- The names that lead to a fixture are those of the directory of its source and its own. -/
theorem Stems.parts_fixture (h : case.Stems extension file stem) (hne : root.bytes ≠ [])
    (hdirectory : file.directory = root.below file.above) :
    case.fixture.parts = root.parts ++
      (file.above.map Name.bytes ++ [Utf8.encode (fixtureText stem extension)]) := by
  have hbelow := Path.below_bytes_ne_nil hne file.above
  rw [h.fixture, hdirectory, Path.parts_join (Path.trimmed_bytes_ne_nil hbelow) h.slash_not_mem
    (isIdle_fixtureText stem extension), Path.parts_trimmed, Path.parts_below hne,
    List.append_assoc]

/-- What is shown of the names that lead to a fixture is the identity of its case with the ending of
a fixture. -/
theorem shows_fixture (h : ofFile? extension file = some case) (hne : root.bytes ≠ [])
    (hdirectory : file.directory = root.below file.above) :
    root.Shows case.fixture (case.id ++ ".fixture.".toList ++ extension) := by
  obtain ⟨stem, hstems⟩ := exists_stems h
  refine ⟨_, hstems.parts_fixture hne hdirectory, ?_⟩
  obtain ⟨-, hid⟩ := fileName_of_ofFile? h
  rw [relative, List.map_append, List.map_singleton, Name.text, Utf8.lenient_of_decode? hstems.name,
    intercalate_concat_append] at hid
  rw [List.map_append, List.map_map, List.map_singleton,
    Utf8.lenient_of_decode? (Utf8.decode?_encode _), fixtureText, intercalate_concat_append,
    ← List.append_cancel_right hid, fixtureSuffix_eq, List.append_assoc]
  rfl

/-- A label has what follows the last dot of the extension. -/
theorem fixtureName_of_append {back : Text} (front : Text)
    (hfile : case.fileName = case.id ++ '.' :: extension)
    (hextension : '.' :: extension = front ++ '.' :: back) (hback : '.' ∉ back) :
    case.fixtureName = case.id ++ ".fixture.".toList ++ back := by
  rw [fixtureName, hfile, hextension, ← List.append_assoc, Text.afterLast?_append_cons _ hback,
    List.append_assoc]
  rfl

end TestCase

/-! ### Labels -/

/-- The label of a fixture shows the names that lead to it exactly if there is no dot in the
extension. It has the last part of an extension with dots, while the fixture has all of it. The
label is what the differ is given for the fixture that is read. -/
theorem fixtureName_of_discovered (h : discover fs root extension = .ok cases)
    (hcase : case ∈ cases) :
    root.Shows case.fixture (case.id ++ ".fixture.".toList ++ extension) ∧
      (root.Shows case.fixture case.fixtureName ↔ '.' ∉ extension) ∧
      (∀ front back, extension = front ++ '.' :: back → '.' ∉ back →
        case.fixtureName = case.id ++ ".fixture.".toList ++ back) ∧
      ∀ (files : FileSystem) (differ : Differ) (labelRoot expected actual : Text),
        files.fileText case.fixture = .ok expected →
          verifyFixture files case actual differ labelRoot =
            .ok (.ofRendering (differ (labelRoot ++ '/' :: case.fixtureName)
              (Text.normalize expected) (Text.normalize actual))) := by
  obtain ⟨file, hne, hdirectory, hfound⟩ := exists_file_of_discover h hcase
  obtain ⟨hname, hid⟩ := TestCase.fileName_of_ofFile? hfound
  have hfileName : case.fileName = case.id ++ '.' :: extension := hname.trans hid
  have hshows := TestCase.shows_fixture hfound hne hdirectory
  have hdotted {front back : Text} (hextension : extension = front ++ '.' :: back)
      (hback : '.' ∉ back) : case.fixtureName = case.id ++ ".fixture.".toList ++ back :=
    TestCase.fixtureName_of_append ('.' :: front) hfileName
      (congrArg ('.' :: ·) hextension) hback
  refine ⟨hshows, ⟨?_, ?_⟩, fun front back => hdotted, ?_⟩
  · intro hlabel hdot
    obtain ⟨front, back, hextension, hback⟩ := Text.exists_last_of_mem hdot
    have hsame := hlabel.unique hshows
    rw [hdotted hextension hback] at hsame
    -- The last part is shorter than the whole extension.
    have hlength := congrArg List.length hsame
    simp [hextension] at hlength
    omega
  · intro hdot
    rwa [TestCase.fixtureName_of_append [] hfileName rfl hdot]
  · intro files differ labelRoot expected actual hfixture
    exact verifyFixture_of_fileText hfixture

namespace Harness

/-- The directory with one source whose extension has a dot in it. -/
def dottedSource : FileSystem :=
  (FileSystem.empty.put directoryT .directory).put
    (.ofText "v.x.y".toList :: directoryT) (.file [])

/-- Its case. -/
def dottedCase : TestCase where
  id := "v".toList
  fileName := "v.x.y".toList
  source := .ofText "t/v.x.y".toList
  fixture := .ofText "t/v.fixture.x.y".toList

theorem discover_dottedSource :
    discover dottedSource (.ofText "t".toList) "x.y".toList = .ok [dottedCase] := by
  have hnames : dottedSource.children directoryT = [.ofText "v.x.y".toList] :=
    FileSystem.children_eq_of_perm (by decide) (by decide)
  have hlocate : dottedSource.locate true (.ofText "t".toList) =
      .ok (.found directoryT maxLinks) := by
    cbv
  have hwalk := FileSystem.walk_of_children hlocate rfl hnames
    (List.forall_mem_singleton.mpr (.file rfl))
  exact discover_eq_ok_iff.mpr ⟨_, hwalk, by decide +kernel⟩

/-- The label leaves out the first part of the extension. -/
theorem fixtureName_of_discovered_dottedSource :
    discover dottedSource (.ofText "t".toList) "x.y".toList = .ok [dottedCase] ∧
      (Path.ofText "t".toList).Shows dottedCase.fixture "v.fixture.x.y".toList ∧
      dottedCase.fixtureName = "v.fixture.y".toList ∧
      ¬ (Path.ofText "t".toList).Shows dottedCase.fixture dottedCase.fixtureName := by
  obtain ⟨hshows, hlabel, hdotted, -⟩ :=
    fixtureName_of_discovered discover_dottedSource List.mem_cons_self
  refine ⟨discover_dottedSource, hshows, ?_, fun h => hlabel.mp h (by decide)⟩
  exact hdotted "x".toList "y".toList rfl (by decide)

/-- The fixture of a case is compared under a name that is not its own. -/
theorem not_forall_shows_fixtureName :
    ¬ (∀ (fs : FileSystem) (root : Path) (extension : Text) (cases : List TestCase)
      (case : TestCase),
        discover fs root extension = .ok cases → case ∈ cases →
          root.Shows case.fixture case.fixtureName) ∧
    verifyFixture (dottedSource.put
        (.ofText "v.fixture.x.y".toList :: directoryT) (.file [])) dottedCase []
      (fun label _ _ => some label) "t".toList = .ok (.fail (.diff "t/v.fixture.y".toList)) := by
  have hfixture : (dottedSource.put (.ofText "v.fixture.x.y".toList :: directoryT)
      (.file [])).fileText dottedCase.fixture = .ok [] :=
    FileSystem.fileText_of_content (by cbv)
  refine ⟨fun h => ?_, verifyFixture_of_fileText hfixture⟩
  obtain ⟨row, hrow, hshown⟩ := h _ _ _ _ _ discover_dottedSource List.mem_cons_self
  have hparts : [Utf8.encode "t".toList] ++ [Utf8.encode "v.fixture.x.y".toList] =
      [Utf8.encode "t".toList] ++ row := hrow
  rw [← List.append_cancel_left hparts] at hshown
  revert hshown
  decide +kernel

end Harness

end GoldenFiles
