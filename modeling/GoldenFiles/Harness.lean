import GoldenFiles.Discovery
import GoldenFiles.Report.Block
import GoldenFiles.Report.Sink

/-!
# Runs

A run finds its cases before the first of them starts. Then every case is taken in turn: its header
is reported, a fresh instance of the pipeline makes its output, the output is settled, and its
outcome is reported. At the end comes the verdict. A run ends early with an error; what has been
written to files and to the report until then stays.

## Main definitions

* `Harness` — a configuration with a pipeline and a differ
* `World` — what a run changes
* `Harness.runCase` — a single case
* `Harness.run` — a whole run
-/

namespace GoldenFiles

/-- A configuration with the pipeline under test and the differ that compares texts. -/
structure Harness where
  config : Config
  pipeline : Pipeline
  differ : Differ

/-- What a run changes: files, the report, and the instances of the pipeline that it has used, each
in the state in which it was left, the latest last. -/
structure World (State : Type) where
  files : FileSystem
  sink : Sink
  instances : List State

/-- A step of a run, which may end it early. -/
abbrev RunM (State : Type) := EStateM HarnessError (World State)

namespace RunM

variable {State : Type}

/-- Writes to the report. -/
def report (text : StyledText) : RunM State Unit := fun world =>
  match world.sink.write text with
  | (sink, none) => .ok () { world with sink := sink }
  | (sink, some fault) => .error (.output fault) { world with sink := sink }

/-- Takes the result of a step that cannot change anything, or ends the run. -/
def lift {α : Type} (result : Except HarnessError α) : RunM State α := fun world =>
  match result with
  | .ok value => .ok value world
  | .error error => .error error world

end RunM

namespace Harness

/-- The cases of a run. -/
def cases (harness : Harness) (fs : FileSystem) : Except HarnessError (List TestCase) :=
  harness.config.cases fs

/-- Makes and settles the output of a case, with a fresh instance of the pipeline. -/
def runCase (harness : Harness) (case : TestCase) :
    RunM harness.pipeline.State CaseResult := fun world =>
  match caseOutput harness.pipeline world.files harness.pipeline.initial case with
  | .error error =>
    -- The instance has been made before the source is read.
    .error error { world with instances := world.instances ++ [harness.pipeline.initial] }
  | .ok (actual, state) =>
    let used := { world with instances := world.instances ++ [state] }
    match settle world.files case actual harness.config.mode harness.differ
        harness.config.rootLabel with
    | .error error => .error error used
    | .ok (result, files) => .ok result { used with files := files }

/-- Runs a case between its header and its outcome. -/
def reportCase (harness : Harness) (labelRoot : Text) (case : TestCase) :
    RunM harness.pipeline.State CaseResult := do
  RunM.report (Report.header labelRoot case.fileName)
  let result ← harness.runCase case
  RunM.report (Report.outcome result.outcome)
  return result

/-- Runs cases in turn and adds them to a summary. -/
def runCases (harness : Harness) (labelRoot : Text) :
    List TestCase → Summary → RunM harness.pipeline.State Summary
  | [], summary => return summary
  | case :: rest, summary => do
    let result ← harness.reportCase labelRoot case
    harness.runCases labelRoot rest (summary.record result)

/-- A whole run, reported under `labelRoot`. -/
def run (harness : Harness) (labelRoot : Text) : RunM harness.pipeline.State Summary := do
  let cases ← fun world => RunM.lift (harness.cases world.files) world
  let summary ← harness.runCases labelRoot cases {}
  RunM.report (Report.banner summary)
  return summary

end Harness

end GoldenFiles
