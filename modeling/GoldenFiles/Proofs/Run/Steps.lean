import GoldenFiles.Harness

/-!
# Steps of a run

What a run does with one case, said once: the case is settled by a function of the files alone, and
the report grows by the block of the case, or by its header if the case ends the run. Everything
about whole runs goes by induction on the cases from here.

## Main definitions

* `Sink.add` — a sink that has taken a text
* `Report.block` — the whole block of a case
* `freshOutput`, `Pipeline.leftBy` — what a fresh instance makes of a case, and its state after that
* `Harness.settled` — how a case ends, and the files after that
* `RunM.after` — what a step leaves behind, whether or not it ends the run

## Main results

* `RunM.report_of_unlimited` — a sink without a limit takes every report
* `Harness.runCase_eq` — a case is settled, and uses one instance
* `Harness.reportCase_of_settled`, `Harness.reportCase_of_refused` — a case between its reports
* `Harness.settled_of_reportCase` — a case that ends, on any sink, has been settled
* `Harness.runCases_append` — cases are run one stretch after the other
* `Harness.files_run` — what every case keeps holds of the files after a run
* `Summary.foldl_record` — a summary counts outcomes
-/

namespace GoldenFiles

/-! ### Sinks without a limit -/

namespace Sink

variable {sink : Sink} {text other : StyledText}

/-- A sink that has taken a text. -/
def add (sink : Sink) (text : StyledText) : Sink :=
  { sink with written := sink.written ++ Utf8.encode (text.render sink.coloured) }

@[simp] theorem add_nil : sink.add [] = sink := by
  simp [add, StyledText.render, Utf8.encode]

@[simp] theorem add_add : (sink.add text).add other = sink.add (text ++ other) := by
  simp [add, StyledText.render, Utf8.encode]

theorem write_of_unlimited (h : sink.room = none) : sink.write text = (sink.add text, none) := by
  simp [write, writeBytes, add, h]

end Sink

/-! ### Sequences of steps -/

namespace RunM

variable {State α β : Type} {step : RunM State α} {next : α → RunM State β}
  {world left : World State} {text : StyledText}

/-- What a step leaves behind, whether or not it ends the run. -/
def after : EStateM.Result HarnessError (World State) α → World State
  | .ok _ world => world
  | .error _ world => world

theorem bind_of_ok {value : α} (h : step world = .ok value left) :
    (step >>= next) world = next value left := by
  change EStateM.bind step next world = _
  rw [EStateM.bind, h]

theorem bind_of_error {error : HarnessError} (h : step world = .error error left) :
    (step >>= next) world = .error error left := by
  change EStateM.bind step next world = _
  rw [EStateM.bind, h]

/-- A sequence of steps that goes through went through its first step. -/
theorem exists_of_bind_eq_ok {value : β} (h : (step >>= next) world = .ok value left) :
    ∃ first between, step world = .ok first between ∧ next first between = .ok value left := by
  cases hstep : step world with
  | ok first between => exact ⟨first, between, rfl, (bind_of_ok hstep).symm.trans h⟩
  | error error between => rw [bind_of_error hstep] at h; cases h

/-- What a sequence of steps leaves behind was left by its first step or by the next one. -/
theorem after_bind {P : World State → Prop} (hstep : P (after (step world)))
    (hnext : ∀ value left, step world = .ok value left → P left → P (after (next value left))) :
    P (after ((step >>= next) world)) := by
  cases h : step world with
  | ok value left =>
    rw [bind_of_ok h]
    rw [h] at hstep
    exact hnext value left h hstep
  | error error left =>
    rw [bind_of_error h]
    rwa [h] at hstep

/-- A report changes the sink only. -/
theorem files_report (text : StyledText) (world : World State) :
    (after (report text world)).files = world.files := by
  unfold report
  split <;> rfl

theorem files_of_report {value : Unit} (h : report text world = .ok value left) :
    left.files = world.files := by
  have hfiles := files_report text world
  rwa [h] at hfiles

theorem report_of_unlimited (h : world.sink.room = none) :
    report text world = .ok () { world with sink := world.sink.add text } := by
  simp [report, Sink.write_of_unlimited h]

end RunM

/-! ### A single case -/

/-- The whole block of a case. -/
def Report.block (labelRoot : Text) (case : TestCase) (outcome : Outcome) : StyledText :=
  Report.header labelRoot case.fileName ++ Report.outcome outcome

/-- The state in which a case leaves a fresh instance, which is used in vain if the source cannot be
read. -/
def Pipeline.leftBy (p : Pipeline) (fs : FileSystem) (case : TestCase) : p.State :=
  match caseOutput p fs p.initial case with
  | .ok (_, state) => state
  | .error _ => p.initial

/-- The output of a case by a fresh instance, for cases whose source can be read. -/
def freshOutput (p : Pipeline) (fs : FileSystem) (case : TestCase) : Text :=
  match caseOutput p fs p.initial case with
  | .ok (actual, _) => actual
  | .error _ => []

section

variable {p : Pipeline} {fs after : FileSystem} {case : TestCase}

/-- What makes the output of a case is its source. -/
theorem caseOutput_of_source {source : Text} (h : fs.fileText case.source = .ok source) :
    caseOutput p fs p.initial case = .ok (freshOutput p fs case, p.leftBy fs case) := by
  simp [freshOutput, Pipeline.leftBy, caseOutput, h]

/-- The output of a case depends on its source alone. -/
theorem freshOutput_congr (h : after.fileText case.source = fs.fileText case.source) :
    freshOutput p after case = freshOutput p fs case := by
  simp [freshOutput, caseOutput, h]

/-- The state in which a case leaves an instance depends on its source alone. -/
theorem leftBy_congr (h : after.fileText case.source = fs.fileText case.source) :
    p.leftBy after case = p.leftBy fs case := by
  simp [Pipeline.leftBy, caseOutput, h]

end

namespace Harness

variable {harness : Harness} {labelRoot : Text} {case : TestCase} {cases : List TestCase}
  {world : World harness.pipeline.State} {result : CaseResult} {files : FileSystem}
  {error : HarnessError}

/-- How a case ends, and the files after that. -/
def settled (harness : Harness) (fs : FileSystem) (case : TestCase) :
    Except HarnessError (CaseResult × FileSystem) :=
  match caseOutput harness.pipeline fs harness.pipeline.initial case with
  | .error error => .error error
  | .ok (actual, _) =>
    settle fs case actual harness.config.mode harness.differ harness.config.rootLabel

/-- A world in which one more instance has been used, for a case. -/
def withInstance (harness : Harness) (world : World harness.pipeline.State) (case : TestCase) :
    World harness.pipeline.State :=
  { world with instances := world.instances ++ [harness.pipeline.leftBy world.files case] }

/-- A case is settled, and uses one instance. -/
theorem runCase_eq (harness : Harness) (case : TestCase) (world : World harness.pipeline.State) :
    harness.runCase case world =
      match harness.settled world.files case with
      | .ok (result, files) => .ok result { harness.withInstance world case with files := files }
      | .error error => .error error (harness.withInstance world case) := by
  unfold runCase settled withInstance Pipeline.leftBy
  cases caseOutput harness.pipeline world.files harness.pipeline.initial case with
  | error error => rfl
  | ok output =>
    dsimp only
    cases settle world.files case output.1 harness.config.mode harness.differ
      harness.config.rootLabel <;> rfl

/-- A case that ends leaves its whole block in the report. -/
theorem reportCase_of_settled (hroom : world.sink.room = none)
    (h : harness.settled world.files case = .ok (result, files)) :
    harness.reportCase labelRoot case world =
      .ok result { harness.withInstance world case with
        files := files
        sink := world.sink.add (Report.block labelRoot case result.outcome) } := by
  have hcase := harness.runCase_eq case
    { world with sink := world.sink.add (Report.header labelRoot case.fileName) }
  rw [h] at hcase
  refine (RunM.bind_of_ok (RunM.report_of_unlimited hroom)).trans ?_
  refine (RunM.bind_of_ok hcase).trans ?_
  refine (RunM.bind_of_ok (RunM.report_of_unlimited ?_)).trans ?_
  · exact hroom
  · change EStateM.Result.ok _ _ = _
    simp [withInstance, Report.block]

/-- A case that ends the run leaves its header in the report. -/
theorem reportCase_of_refused (hroom : world.sink.room = none)
    (h : harness.settled world.files case = .error error) :
    harness.reportCase labelRoot case world =
      .error error { harness.withInstance world case with
        sink := world.sink.add (Report.header labelRoot case.fileName) } := by
  have hcase := harness.runCase_eq case
    { world with sink := world.sink.add (Report.header labelRoot case.fileName) }
  rw [h] at hcase
  refine (RunM.bind_of_ok (RunM.report_of_unlimited hroom)).trans ?_
  exact (RunM.bind_of_error hcase).trans rfl

/-- A case that ends, on any sink, has been settled. -/
theorem settled_of_reportCase {left : World harness.pipeline.State}
    (h : harness.reportCase labelRoot case world = .ok result left) :
    harness.settled world.files case = .ok (result, left.files) := by
  obtain ⟨_, headed, hheader, h⟩ := RunM.exists_of_bind_eq_ok h
  obtain ⟨ended, settledWorld, hcase, h⟩ := RunM.exists_of_bind_eq_ok h
  obtain ⟨_, reported, hreport, h⟩ := RunM.exists_of_bind_eq_ok h
  -- The case is settled on the files as they were before its header.
  have hheaded := RunM.files_of_report hheader
  have hreported := RunM.files_of_report hreport
  obtain ⟨rfl, rfl⟩ : ended = result ∧ reported = left := by
    cases h
    exact ⟨rfl, rfl⟩
  rw [runCase_eq, hheaded] at hcase
  cases hsettled : harness.settled world.files case with
  | error error => rw [hsettled] at hcase; cases hcase
  | ok settled =>
    rw [hsettled] at hcase
    cases hcase
    rw [hreported]

/-- What holds of the files before a case, and after it is settled, holds however the case ends. -/
theorem files_reportCase {P : FileSystem → Prop} (hworld : P world.files)
    (hsettled : ∀ result files, harness.settled world.files case = .ok (result, files) → P files) :
    P (RunM.after (harness.reportCase labelRoot case world)).files := by
  refine RunM.after_bind (P := fun left => P left.files) ?_ fun _ headed hheader hheaded => ?_
  · rwa [RunM.files_report]
  have hfiles := RunM.files_of_report hheader
  refine RunM.after_bind (P := fun left => P left.files) ?_ fun result left _ hleft => ?_
  · rw [runCase_eq, hfiles]
    cases hcase : harness.settled world.files case with
    | error error => exact hheaded
    | ok settled => exact hsettled settled.1 settled.2 hcase
  refine RunM.after_bind (P := fun left => P left.files) ?_ fun _ _ _ hreported => hreported
  rwa [RunM.files_report]

/-! ### All cases -/

/-- What holds of the files at first, and is kept by every case that is settled, holds however the
run ends. -/
theorem files_runCases {P : FileSystem → Prop} (hworld : P world.files)
    (hsettled : ∀ case ∈ cases, ∀ fs result files, P fs →
      harness.settled fs case = .ok (result, files) → P files) (summary : Summary) :
    P (RunM.after (harness.runCases labelRoot cases summary world)).files := by
  induction cases generalizing world summary with
  | nil => exact hworld
  | cons case rest ih =>
    obtain ⟨hcase, hrest⟩ := List.forall_mem_cons.mp hsettled
    refine RunM.after_bind (P := fun left => P left.files) ?_ fun result left _ hleft => ?_
    · exact files_reportCase hworld fun result files h => hcase _ result files hworld h
    · exact ih hleft hrest _

/-- Cases are run one stretch after the other. -/
theorem runCases_append (labelRoot : Text) (earlier later : List TestCase) (summary : Summary) :
    harness.runCases labelRoot (earlier ++ later) summary =
      harness.runCases labelRoot earlier summary >>= harness.runCases labelRoot later := by
  induction earlier generalizing summary with
  | nil => rfl
  | cons case rest ih =>
    simp only [List.cons_append, runCases, bind_assoc]
    exact congrArg _ (funext fun result => ih _)

/-- A run whose cases are known. -/
theorem run_of_cases (h : harness.cases world.files = .ok cases) :
    harness.run labelRoot world =
      (harness.runCases labelRoot cases {} >>= fun summary =>
        RunM.report (Report.banner summary) >>= fun _ => pure summary) world := by
  unfold run
  refine RunM.bind_of_ok ?_
  rw [h]
  rfl

/-- A run that finds no cases leaves everything as it is. -/
theorem run_of_error (h : harness.cases world.files = .error error) :
    harness.run labelRoot world = .error error world := by
  refine RunM.bind_of_error ?_
  rw [h]
  rfl

/-- What holds of the files at first, and is kept by every case that is settled, holds after a run.
-/
theorem files_run {P : FileSystem → Prop} (hworld : P world.files)
    (hsettled : ∀ cases, harness.cases world.files = .ok cases → ∀ case ∈ cases,
      ∀ fs result files, P fs → harness.settled fs case = .ok (result, files) → P files) :
    P (RunM.after (harness.run labelRoot world)).files := by
  cases hcases : harness.cases world.files with
  | error error => rwa [run_of_error hcases]
  | ok cases =>
    rw [run_of_cases hcases]
    refine RunM.after_bind (P := fun left => P left.files) ?_ fun summary left _ hleft => ?_
    · exact files_runCases hworld (hsettled cases hcases) {}
    refine RunM.after_bind (P := fun left => P left.files) ?_ fun _ _ _ hreported => hreported
    rwa [RunM.files_report]

end Harness

/-! ### Summaries -/

namespace Summary

/-- A summary counts outcomes. -/
theorem foldl_record (results : List CaseResult) (summary : Summary) :
    results.foldl record summary =
      { total := summary.total + results.length
        created := summary.created + results.countP (·.outcome = .created)
        passed := summary.passed + results.countP (·.outcome = .pass)
        failed := summary.failed + results.countP (·.outcome.isFailure) } := by
  induction results generalizing summary with
  | nil => simp
  | cons result rest ih =>
    rw [List.foldl_cons, ih]
    cases h : result.outcome <;>
      simp [record, h, Outcome.isFailure] <;> omega

/-- Every case is counted under one outcome. -/
theorem outcomes_ofResults (results : List CaseResult) :
    (ofResults results).created + (ofResults results).passed + (ofResults results).failed =
      (ofResults results).total := by
  refine List.foldlRecOn (motive := fun summary =>
      summary.created + summary.passed + summary.failed = summary.total)
    (b := {}) results record rfl ?_
  intro summary h result _
  unfold record
  split <;> dsimp only <;> omega

theorem exitCode_eq_zero_iff {summary : Summary} : summary.exitCode = 0 ↔ summary.failed = 0 := by
  simp [exitCode, isSuccess]

end Summary

end GoldenFiles
