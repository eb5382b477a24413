import GoldenFiles.Proofs.Run.Verification
import GoldenFiles.Proofs.Text.LineEndings
import Mathlib.Data.List.Infix

/-!
# Line endings of files

Sources are normalized before they are parsed, and fixtures and outputs before they are compared. So
it does not matter in which way the lines of a file end, as long as they ended in line feeds alone
before. A pair that normalizing brings together is handed on, to the parser and to the differ alike.

## Main definitions

* `Outcome.ofRendering` — the outcome of a comparison

## Main results

* `lineEndings_invisible` — sources, fixtures and outputs with other line endings
* `pairs_handed_on` — what parsers and differs are given
-/

namespace GoldenFiles

variable {fs : FileSystem} {case : TestCase} {text expected actual other : Text} {p : Pipeline}
  {differ : Differ} {labelRoot : Text}

/-- The outcome of a comparison, by what the differ answers. -/
def Outcome.ofRendering : Option Text → Outcome
  | some rendering => if rendering = [] then .pass else .fail (.diff rendering)
  | none => .pass

/-- The parser is given the source in normal form. -/
theorem caseOutput_of_fileText (state : p.State) (h : fs.fileText case.source = .ok text) :
    caseOutput p fs state case = .ok (p.output state (Text.normalize text) case.fileName) := by
  rw [caseOutput, h]

/-- The differ is given both texts in normal form. -/
theorem verifyFixture_of_fileText (h : fs.fileText case.fixture = .ok expected) :
    verifyFixture fs case actual differ labelRoot =
      .ok (.ofRendering (differ (fixtureLabel labelRoot case) (Text.normalize expected)
        (Text.normalize actual))) := by
  rw [verifyFixture, h]
  rfl

theorem verifyFixture_congr (h : Text.normalize actual = Text.normalize other) :
    verifyFixture fs case actual differ labelRoot =
      verifyFixture fs case other differ labelRoot := by
  simp only [verifyFixture, compareTexts, h]

/-! ### Files with other line endings -/

/-- It does not show in which way lines end. A source without pairs has the output that it has with
some of its line feeds written as pairs, whatever the pipeline, and leaves the instance in the same
state. A fixture is compared with the same outcome, down to the rendering, whatever the differ, and
so is an output. -/
theorem lineEndings_invisible (hpair : ¬ Text.pair <:+: text) (h : Text.Recoded text other) :
    (∀ (p : Pipeline) (state : p.State) (case : TestCase) (fs after : FileSystem),
      fs.fileText case.source = .ok text → after.fileText case.source = .ok other →
        ∃ result, caseOutput p fs state case = .ok result ∧
          caseOutput p after state case = .ok result) ∧
    (∀ (case : TestCase) (differ : Differ) (labelRoot actual : Text) (fs after : FileSystem),
      fs.fileText case.fixture = .ok text → after.fileText case.fixture = .ok other →
        ∃ outcome, verifyFixture fs case actual differ labelRoot = .ok outcome ∧
          verifyFixture after case actual differ labelRoot = .ok outcome) ∧
    ∀ (case : TestCase) (differ : Differ) (labelRoot : Text) (fs : FileSystem),
      verifyFixture fs case other differ labelRoot =
        verifyFixture fs case text differ labelRoot := by
  have hnormal : Text.normalize other = Text.normalize text := by
    rw [Text.normalize_of_recoded h hpair, Text.normalize_eq_self_iff.mpr hpair]
  refine ⟨?_, ?_, ?_⟩
  · intro p state case fs after htext hother
    refine ⟨_, caseOutput_of_fileText state htext, ?_⟩
    rw [caseOutput_of_fileText state hother, hnormal]
  · intro case differ labelRoot actual fs after htext hother
    refine ⟨_, verifyFixture_of_fileText htext, ?_⟩
    rw [verifyFixture_of_fileText hother, hnormal]
  · intro case differ labelRoot fs
    exact verifyFixture_congr hnormal

namespace Harness

/-- The directory with one source and its fixture, both of which have the given text. -/
def holding (text : Text) : FileSystem :=
  ((FileSystem.empty.put directoryT .directory).put
    (.ofText "e.s".toList :: directoryT) (.file (Utf8.encode text))).put
    (.ofText "e.fixture.s".toList :: directoryT) (.file (Utf8.encode text))

theorem fileText_holding (text : Text) :
    (holding text).fileText (caseOf "e").source = .ok text ∧
      (holding text).fileText (caseOf "e").fixture = .ok text := by
  refine ⟨FileSystem.fileText_of_content ?_, FileSystem.fileText_of_content ?_⟩
  · cbv
  · cbv

/-- A carriage return alone stays, and the last of two line feeds can be written as a pair. -/
theorem lineEndings_invisible_loneReturn :
    ¬ Text.pair <:+: "\"a\r\"\n\n".toList ∧
      Text.Recoded "\"a\r\"\n\n".toList "\"a\r\"\n\r\n".toList ∧
      ∃ result outcome,
        caseOutput echo (holding "\"a\r\"\n\n".toList) () (caseOf "e") = .ok result ∧
        caseOutput echo (holding "\"a\r\"\n\r\n".toList) () (caseOf "e") = .ok result ∧
        verifyFixture (holding "\"a\r\"\n\n".toList) (caseOf "e") [] echoing.differ "t".toList =
          .ok outcome ∧
        verifyFixture (holding "\"a\r\"\n\r\n".toList) (caseOf "e") [] echoing.differ "t".toList =
          .ok outcome ∧
        verifyFixture (holding []) (caseOf "e") "\"a\r\"\n\r\n".toList echoing.differ "t".toList =
          verifyFixture (holding []) (caseOf "e") "\"a\r\"\n\n".toList echoing.differ
            "t".toList := by
  have hpair : ¬ Text.pair <:+: "\"a\r\"\n\n".toList := by decide
  have hrecoded : Text.Recoded "\"a\r\"\n\n".toList "\"a\r\"\n\r\n".toList :=
    .keep _ (.keep _ (.keep _ (.keep _ (.keep _ (.turn .nil)))))
  obtain ⟨hsource, hfixture, hactual⟩ := lineEndings_invisible hpair hrecoded
  obtain ⟨result, hresult, hresult'⟩ := hsource echo () (caseOf "e")
    (holding "\"a\r\"\n\n".toList) (holding "\"a\r\"\n\r\n".toList) (fileText_holding _).1
    (fileText_holding _).1
  obtain ⟨outcome, houtcome, houtcome'⟩ := hfixture (caseOf "e") echoing.differ "t".toList []
    (holding "\"a\r\"\n\n".toList) (holding "\"a\r\"\n\r\n".toList) (fileText_holding _).2
    (fileText_holding _).2
  exact ⟨hpair, hrecoded, result, outcome, hresult, hresult', houtcome, houtcome', hactual _ _ _ _⟩

end Harness

/-! ### Pairs that are handed on -/

/-- Normalizing leaves a pair exactly where a carriage return stood in front of one, and what it
leaves is not always normal then. The parser is given a pair for such sources only, and the differ
for such fixtures and outputs only. -/
theorem pairs_handed_on (text : Text) :
    (Text.pair <:+: Text.normalize text ↔ Text.returnedPair <:+: text) ∧
    (Text.normalize (Text.normalize text) = Text.normalize text ↔ ¬ Text.returnedPair <:+: text) ∧
    (∀ (fs : FileSystem) (case : TestCase), fs.fileText case.source = .ok text →
      ∃ handed, (Text.pair <:+: handed ↔ Text.returnedPair <:+: text) ∧
        ∀ (p : Pipeline) (state : p.State),
          caseOutput p fs state case = .ok (p.output state handed case.fileName)) ∧
    ∀ (fs : FileSystem) (case : TestCase) (actual : Text), fs.fileText case.fixture = .ok text →
      ∃ handed handed', (Text.pair <:+: handed ↔ Text.returnedPair <:+: text) ∧
        (Text.pair <:+: handed' ↔ Text.returnedPair <:+: actual) ∧
        ∀ (differ : Differ) (labelRoot : Text), verifyFixture fs case actual differ labelRoot =
          .ok (.ofRendering (differ (fixtureLabel labelRoot case) handed handed')) := by
  refine ⟨Text.pair_infix_normalize_iff, ?_, ?_, ?_⟩
  · rw [Text.normalize_eq_self_iff, Text.pair_infix_normalize_iff]
  · intro fs case hsource
    refine ⟨_, Text.pair_infix_normalize_iff, ?_⟩
    intro p state
    exact caseOutput_of_fileText state hsource
  · intro fs case actual hfixture
    refine ⟨_, _, Text.pair_infix_normalize_iff, Text.pair_infix_normalize_iff, ?_⟩
    intro differ labelRoot
    exact verifyFixture_of_fileText hfixture

namespace Harness

/-- A parser that is given a pair, and a differ that is given one for the fixture but not for the
output. -/
theorem pairs_handed_on_returnedPair :
    (holding "a\r\r\n".toList).fileText (caseOf "e").source = .ok "a\r\r\n".toList ∧
      (∃ handed, Text.pair <:+: handed ∧
        caseOutput echo (holding "a\r\r\n".toList) () (caseOf "e") =
          .ok (echo.output () handed "e.s".toList)) ∧
      (holding "a\r\r\n".toList).fileText (caseOf "e").fixture = .ok "a\r\r\n".toList ∧
      ∃ handed handed', Text.pair <:+: handed ∧ ¬ Text.pair <:+: handed' ∧
        ∀ differ, verifyFixture (holding "a\r\r\n".toList) (caseOf "e") "a\r\n".toList differ
            "t".toList =
          .ok (.ofRendering (differ "t/e.fixture.s".toList handed handed')) := by
  obtain ⟨hsource, hfixture⟩ := fileText_holding "a\r\r\n".toList
  obtain ⟨-, -, hparser, hdiffer⟩ := pairs_handed_on "a\r\r\n".toList
  obtain ⟨given, hgiven, houtput⟩ := hparser _ _ hsource
  obtain ⟨handed, handed', hhanded, hhanded', hverify⟩ := hdiffer _ _ "a\r\n".toList hfixture
  refine ⟨hsource, ⟨given, hgiven.mpr (by decide), houtput echo ()⟩, hfixture, handed, handed',
    hhanded.mpr (by decide), fun h => absurd (hhanded'.mp h) (by decide), fun differ => ?_⟩
  exact hverify differ "t".toList

/-- Normalizing does not always leave line feeds alone. -/
theorem not_forall_not_pair_infix_normalize :
    ¬ (∀ text, ¬ Text.pair <:+: Text.normalize text) ∧
      ¬ (∀ text, Text.normalize (Text.normalize text) = Text.normalize text) ∧
      caseOutput echo (holding "a\r\r\n".toList) () (caseOf "e") = .ok ("a\r\n".toList, ()) ∧
      verifyFixture (holding "a\r\r\n".toList) (caseOf "e") [] (fun _ expected _ => some expected)
        "t".toList = .ok (.fail (.diff "a\r\n".toList)) := by
  obtain ⟨hsource, hfixture⟩ := fileText_holding "a\r\r\n".toList
  refine ⟨fun h => ?_, fun h => ?_, ?_, ?_⟩
  · exact absurd (h "a\r\r\n".toList) (by decide)
  · exact absurd (h "a\r\r\n".toList) (by decide)
  · exact caseOutput_of_fileText (p := echo) () hsource
  · exact verifyFixture_of_fileText hfixture

end Harness

end GoldenFiles
