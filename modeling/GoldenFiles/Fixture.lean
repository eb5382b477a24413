import GoldenFiles.Config
import GoldenFiles.HarnessError
import GoldenFiles.Pipeline
import GoldenFiles.TestCase
import GoldenFiles.Text.LineEnding

/-!
# Cases and their fixtures

The output of a case comes from its source by a pipeline. It is then settled: it becomes the
fixture, or it is compared with it. Line endings are normalized before sources are parsed and before
texts are compared; what is written is written as it is.

## Main definitions

* `caseOutput` — what an instance of a pipeline makes of the source of a case
* `Outcome`, `CaseResult` — how a case ended
* `createFixture`, `verifyFixture` — writing a fixture, and comparing with it
* `settle` — the one or the other
-/

namespace GoldenFiles

/-! ### Output -/

/-- What an instance of a pipeline makes of the source of a case, with the state in which that
leaves the instance. -/
def caseOutput (p : Pipeline) (fs : FileSystem) (state : p.State) (case : TestCase) :
    Except HarnessError (Text × p.State) :=
  match fs.fileText case.source with
  | .error fault => .error (.readSource case.source fault)
  | .ok text => .ok (p.output state (Text.normalize text) case.fileName)

/-! ### Outcomes -/

/-- Why a case failed. -/
inductive Failure
  /-- The output differs from the fixture, as rendered by the differ. -/
  | diff (rendering : Text)
  /-- There is no fixture. -/
  | missingFixture (path : Path)
  deriving DecidableEq, Repr

/-- How a case ended. -/
inductive Outcome
  | created
  | pass
  | fail (failure : Failure)
  deriving DecidableEq, Repr

/-- Whether a case failed. -/
def Outcome.isFailure : Outcome → Bool
  | .fail _ => true
  | _ => false

/-- A case that has ended. -/
structure CaseResult where
  case : Text
  mode : Mode
  actual : Text
  outcome : Outcome
  deriving DecidableEq, Repr

/-! ### Fixtures -/

/-- Makes the output of a case its fixture. -/
def createFixture (fs : FileSystem) (case : TestCase) (actual : Text) :
    Except HarnessError FileSystem :=
  match fs.write case.fixture (Utf8.encode actual) with
  | .error fault => .error (.writeFixture case.fixture fault)
  | .ok written => .ok written

/-- The label under which the fixture of a case is compared. -/
def fixtureLabel (labelRoot : Text) (case : TestCase) : Text :=
  labelRoot ++ '/' :: case.fixtureName

/-- How the text of a fixture and the output of its case compare. A rendering without any text
counts as agreement. -/
def compareTexts (differ : Differ) (label expected actual : Text) : Outcome :=
  match differ label (Text.normalize expected) (Text.normalize actual) with
  | some rendering => if rendering = [] then .pass else .fail (.diff rendering)
  | none => .pass

/-- Compares the output of a case with its fixture. A fixture that is not there is a failure of the
case; one that cannot be read is an error. -/
def verifyFixture (fs : FileSystem) (case : TestCase) (actual : Text) (differ : Differ)
    (labelRoot : Text) : Except HarnessError Outcome :=
  match fs.fileText case.fixture with
  | .error .notFound => .ok (.fail (.missingFixture case.fixture))
  | .error fault => .error (.readFixture case.fixture fault)
  | .ok expected => .ok (compareTexts differ (fixtureLabel labelRoot case) expected actual)

/-- Settles a case: what became of it, and the file system after that. -/
def settle (fs : FileSystem) (case : TestCase) (actual : Text) (mode : Mode) (differ : Differ)
    (labelRoot : Text) : Except HarnessError (CaseResult × FileSystem) :=
  match mode with
  | .create =>
    match createFixture fs case actual with
    | .error error => .error error
    | .ok written => .ok (⟨case.id, mode, actual, .created⟩, written)
  | .verify =>
    match verifyFixture fs case actual differ labelRoot with
    | .error error => .error error
    | .ok outcome => .ok (⟨case.id, mode, actual, outcome⟩, fs)

end GoldenFiles
