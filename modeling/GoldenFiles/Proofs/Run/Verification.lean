import GoldenFiles.Proofs.Diff.Agreement
import GoldenFiles.Proofs.Discovery
import GoldenFiles.Proofs.Run.Steps

/-!
# Verifying runs

A verifying run passes a verdict on every case whose files can be read: the fixture agrees with the
output up to line endings, or the case has regressed. A regression is counted and the run goes on.
The first case whose files cannot be read ends it.

## Main definitions

* `TestCase.Readable`, `TestCase.Offends` — cases that can be judged, and what ends the run at
  others
* `regressed`, `verdict` — how the output of a case compares with its fixture

## Main results

* `TestCase.readable_or_offends` — every case can be judged or ends the run
* `Harness.settled_of_readable`, `Harness.settled_of_offends` — a single case
* `Harness.runCases_of_readable`, `Harness.runCases_of_offends` — cases in turn
* `Harness.run_verify` — a whole run
-/

namespace GoldenFiles

variable {fs : FileSystem} {case : TestCase} {error : HarnessError}

/-! ### Cases that can be judged -/

namespace TestCase

/-- The source of a case can be read, and its fixture too unless it is not there. -/
def Readable (fs : FileSystem) (case : TestCase) : Prop :=
  (∃ source, fs.fileText case.source = .ok source) ∧
    (fs.fileText case.fixture = .error .notFound ∨
      ∃ expected, fs.fileText case.fixture = .ok expected)

/-- A case ends a verifying run with an error. -/
inductive Offends (fs : FileSystem) (case : TestCase) : HarnessError → Prop
  /-- The source cannot be read. -/
  | source {fault : Fault} (h : fs.fileText case.source = .error fault) :
    Offends fs case (.readSource case.source fault)
  /-- The fixture is there and cannot be read. -/
  | fixture {source : Text} {fault : Fault} (hsource : fs.fileText case.source = .ok source)
    (h : fs.fileText case.fixture = .error fault) (hthere : fault ≠ .notFound) :
    Offends fs case (.readFixture case.fixture fault)

theorem readable_or_offends (fs : FileSystem) (case : TestCase) :
    case.Readable fs ∨ ∃ error, case.Offends fs error := by
  cases hsource : fs.fileText case.source with
  | error fault => exact .inr ⟨_, .source hsource⟩
  | ok source =>
    cases hfixture : fs.fileText case.fixture with
    | ok expected => exact .inl ⟨⟨source, hsource⟩, .inr ⟨expected, hfixture⟩⟩
    | error fault =>
      by_cases hthere : fault = .notFound
      · subst hthere
        exact .inl ⟨⟨source, hsource⟩, .inl hfixture⟩
      · exact .inr ⟨_, .fixture hsource hfixture hthere⟩

/-- If not all cases can be judged, there is a first one that ends the run. -/
theorem exists_first_offending {cases : List TestCase}
    (h : ¬ ∀ case ∈ cases, case.Readable fs) :
    ∃ earlier case later error, cases = earlier ++ case :: later ∧
      (∀ case ∈ earlier, case.Readable fs) ∧ case.Offends fs error := by
  induction cases with
  | nil => exact absurd (List.forall_mem_nil _) h
  | cons first rest ih =>
    rcases first.readable_or_offends fs with hfirst | ⟨error, hoffends⟩
    · have hrest : ¬ ∀ case ∈ rest, case.Readable fs := fun hall =>
        h (List.forall_mem_cons.mpr ⟨hfirst, hall⟩)
      obtain ⟨earlier, case, later, error, rfl, hearlier, hoffends⟩ := ih hrest
      exact ⟨first :: earlier, case, later, error, rfl,
        List.forall_mem_cons.mpr ⟨hfirst, hearlier⟩, hoffends⟩
    · exact ⟨[], first, rest, error, rfl, List.forall_mem_nil _, hoffends⟩

end TestCase

/-! ### Verdicts -/

variable {p : Pipeline} {context : Nat} {labelRoot : Text}

/-- Whether a case has regressed: its fixture is not there, or it differs from the output in more
than line endings. -/
def regressed (p : Pipeline) (fs : FileSystem) (case : TestCase) : Bool :=
  match fs.fileText case.fixture with
  | .ok expected => expected.normalize ≠ (freshOutput p fs case).normalize
  | .error _ => true

/-- How a case ends that can be judged. -/
def verdict (context : Nat) (labelRoot : Text) (p : Pipeline) (fs : FileSystem) (case : TestCase) :
    Outcome :=
  match fs.fileText case.fixture with
  | .error _ => .fail (.missingFixture case.fixture)
  | .ok expected =>
    if expected.normalize = (freshOutput p fs case).normalize then
      .pass
    else
      .fail (.diff (Diff.render context (fixtureLabel labelRoot case) expected.normalize
        (freshOutput p fs case).normalize))

theorem isFailure_verdict :
    (verdict context labelRoot p fs case).isFailure = regressed p fs case := by
  unfold verdict regressed
  cases fs.fileText case.fixture with
  | error fault => rfl
  | ok expected =>
    dsimp only
    split
    · next h => simp [h, Outcome.isFailure]
    · next h => simp [h, Outcome.isFailure]

theorem verdict_eq_pass_iff :
    verdict context labelRoot p fs case = .pass ↔ regressed p fs case = false := by
  unfold verdict regressed
  cases fs.fileText case.fixture with
  | error fault => simp
  | ok expected =>
    dsimp only
    split
    · next h => simp [h]
    · next h => simp [h]

theorem verdict_ne_created : verdict context labelRoot p fs case ≠ .created := by
  unfold verdict
  cases fs.fileText case.fixture with
  | error fault => simp
  | ok expected =>
    dsimp only
    split
    · simp
    · simp

/-- A fixture that is there is compared by the line differ, and one that is not is reported. -/
theorem verifyFixture_of_readable {differ : Differ} (hdiffer : differ = Diff.lineDiffer context)
    (h : case.Readable fs) :
    verifyFixture fs case (freshOutput p fs case) differ labelRoot =
      .ok (verdict context labelRoot p fs case) := by
  subst hdiffer
  unfold verifyFixture verdict
  rcases h.2 with hmissing | ⟨expected, hexpected⟩
  · rw [hmissing]
  · rw [hexpected]
    dsimp only
    rw [Diff.compareTexts_lineDiffer]

/-! ### A single case -/

namespace Harness

variable {harness : Harness} {cases : List TestCase} {world : World harness.pipeline.State}

/-- The result of a case that can be judged. -/
def judged (harness : Harness) (context : Nat) (fs : FileSystem) (case : TestCase) :
    CaseResult where
  case := case.id
  mode := .verify
  actual := freshOutput harness.pipeline fs case
  outcome := verdict context harness.config.rootLabel harness.pipeline fs case

theorem settled_of_readable (hmode : harness.config.mode = .verify)
    (hdiffer : harness.differ = Diff.lineDiffer context) (h : case.Readable fs) :
    harness.settled fs case = .ok (harness.judged context fs case, fs) := by
  obtain ⟨source, hsource⟩ := h.1
  unfold settled
  rw [caseOutput_of_source hsource]
  dsimp only
  rw [hmode]
  simp only [settle]
  rw [verifyFixture_of_readable hdiffer h]
  rfl

theorem settled_of_offends (hmode : harness.config.mode = .verify) (h : case.Offends fs error) :
    harness.settled fs case = .error error := by
  unfold settled
  cases h with
  | source h => simp [caseOutput, h]
  | @fixture source fault hsource h hthere =>
    rw [caseOutput_of_source hsource]
    dsimp only
    rw [hmode]
    cases fault <;> simp_all [settle, verifyFixture]

/-! ### Cases in turn -/

/-- The world after cases that can all be judged: their blocks are in the report, every case has
used an instance, and no file has changed. -/
def afterJudging (harness : Harness) (context : Nat) (labelRoot : Text)
    (world : World harness.pipeline.State) (cases : List TestCase) :
    World harness.pipeline.State where
  files := world.files
  sink := world.sink.add (cases.flatMap fun case =>
    Report.block labelRoot case (harness.judged context world.files case).outcome)
  instances := world.instances ++ cases.map (harness.pipeline.leftBy world.files)

theorem reportCase_of_readable (labelRoot : Text) (hmode : harness.config.mode = .verify)
    (hdiffer : harness.differ = Diff.lineDiffer context) (hroom : world.sink.room = none)
    (h : case.Readable world.files) :
    harness.reportCase labelRoot case world =
      .ok (harness.judged context world.files case)
        (harness.afterJudging context labelRoot world [case]) := by
  rw [reportCase_of_settled hroom (settled_of_readable hmode hdiffer h)]
  simp [afterJudging, withInstance]

theorem afterJudging_cons (case : TestCase) (rest : List TestCase) :
    harness.afterJudging context labelRoot
      (harness.afterJudging context labelRoot world [case]) rest =
      harness.afterJudging context labelRoot world (case :: rest) := by
  simp [afterJudging]

theorem runCases_of_readable (labelRoot : Text) (hmode : harness.config.mode = .verify)
    (hdiffer : harness.differ = Diff.lineDiffer context) (hroom : world.sink.room = none)
    (h : ∀ case ∈ cases, case.Readable world.files) (summary : Summary) :
    harness.runCases labelRoot cases summary world =
      .ok ((cases.map (harness.judged context world.files)).foldl .record summary)
        (harness.afterJudging context labelRoot world cases) := by
  induction cases generalizing world summary with
  | nil =>
    change EStateM.Result.ok _ _ = _
    simp [afterJudging]
  | cons case rest ih =>
    obtain ⟨hcase, hrest⟩ := List.forall_mem_cons.mp h
    have hroomNext : (harness.afterJudging context labelRoot world [case]).sink.room = none := hroom
    refine (RunM.bind_of_ok (reportCase_of_readable labelRoot hmode hdiffer hroom hcase)).trans ?_
    refine (ih hroomNext hrest _).trans ?_
    rw [afterJudging_cons]
    rfl

/-- The world after cases that can all be judged and one that cannot. -/
def afterOffence (harness : Harness) (context : Nat) (labelRoot : Text)
    (world : World harness.pipeline.State) (earlier : List TestCase) (case : TestCase) :
    World harness.pipeline.State :=
  let judged := harness.afterJudging context labelRoot world earlier
  { harness.withInstance judged case with
    sink := judged.sink.add (Report.header labelRoot case.fileName) }

/-- The first case that cannot be judged ends the run behind its header. -/
theorem runCases_of_offends {earlier later : List TestCase} (hmode : harness.config.mode = .verify)
    (hdiffer : harness.differ = Diff.lineDiffer context) (hroom : world.sink.room = none)
    (hearlier : ∀ case ∈ earlier, case.Readable world.files) (h : case.Offends world.files error)
    (summary : Summary) :
    harness.runCases labelRoot (earlier ++ case :: later) summary world =
      .error error (harness.afterOffence context labelRoot world earlier case) := by
  -- The cases up to the offending one are a stretch of their own.
  have hstretch := runCases_of_readable labelRoot hmode hdiffer hroom hearlier summary
  have hcase : harness.reportCase labelRoot case
      (harness.afterJudging context labelRoot world earlier) =
        .error error (harness.afterOffence context labelRoot world earlier case) :=
    reportCase_of_refused hroom (settled_of_offends hmode h)
  rw [runCases_append]
  refine (RunM.bind_of_ok hstretch).trans ?_
  exact RunM.bind_of_error hcase

/-! ### Whole runs -/

theorem countP_judged_created (cases : List TestCase) :
    (cases.map (harness.judged context fs)).countP (·.outcome = .created) = 0 := by
  rw [List.countP_eq_zero]
  intro result hmem
  obtain ⟨case, -, rfl⟩ := List.mem_map.mp hmem
  simp [judged, verdict_ne_created]

theorem countP_judged_passed (cases : List TestCase) :
    (cases.map (harness.judged context fs)).countP (·.outcome = .pass) =
      cases.countP fun case => !regressed harness.pipeline fs case := by
  rw [List.countP_map]
  apply List.countP_congr
  intro case _
  simp [judged, verdict_eq_pass_iff]

theorem countP_judged_failed (cases : List TestCase) :
    (cases.map (harness.judged context fs)).countP (·.outcome.isFailure) =
      cases.countP (regressed harness.pipeline fs) := by
  rw [List.countP_map]
  apply List.countP_congr
  intro case _
  simp [judged, isFailure_verdict]

/-- The summary of cases that can all be judged. -/
def verdicts (p : Pipeline) (fs : FileSystem) (cases : List TestCase) : Summary where
  total := cases.length
  created := 0
  passed := cases.countP fun case => !regressed p fs case
  failed := cases.countP (regressed p fs)

theorem ofResults_judged (cases : List TestCase) :
    Summary.ofResults (cases.map (harness.judged context fs)) =
      verdicts harness.pipeline fs cases := by
  rw [Summary.ofResults, Summary.foldl_record, countP_judged_created, countP_judged_passed,
    countP_judged_failed]
  simp [verdicts]

theorem run_of_readable (labelRoot : Text) (hmode : harness.config.mode = .verify)
    (hdiffer : harness.differ = Diff.lineDiffer context) (hroom : world.sink.room = none)
    (hcases : harness.cases world.files = .ok cases)
    (h : ∀ case ∈ cases, case.Readable world.files) :
    harness.run labelRoot world =
      .ok (verdicts harness.pipeline world.files cases)
        { harness.afterJudging context labelRoot world cases with
          sink := (harness.afterJudging context labelRoot world cases).sink.add
            (Report.banner (verdicts harness.pipeline world.files cases)) } := by
  have hrun := runCases_of_readable labelRoot hmode hdiffer hroom h {}
  rw [← Summary.ofResults, ofResults_judged] at hrun
  have hroomEnd : (harness.afterJudging context labelRoot world cases).sink.room = none := hroom
  rw [run_of_cases hcases]
  refine (RunM.bind_of_ok hrun).trans ?_
  exact (RunM.bind_of_ok (RunM.report_of_unlimited hroomEnd)).trans rfl

/-- Verdicts are exact, and regressions never stop a run. If all cases can be judged, the run goes
through all of them and counts those that have regressed. Otherwise it ends with the error of the
first case that cannot be judged, behind the blocks of the cases before it and the header of that
case. -/
theorem run_verify (labelRoot : Text) (hmode : harness.config.mode = .verify)
    (hdiffer : harness.differ = Diff.lineDiffer context) (hroom : world.sink.room = none)
    (hcases : harness.cases world.files = .ok cases) :
    ((∀ case ∈ cases, case.Readable world.files) →
      ∃ summary left, harness.run labelRoot world = .ok summary left ∧
        summary.total = cases.length ∧ summary.created = 0 ∧
        summary.failed = cases.countP (regressed harness.pipeline world.files) ∧
        summary.passed = cases.length - summary.failed ∧
        (summary.exitCode = 0 ↔ summary.failed = 0) ∧
        left.files = world.files ∧
        left.sink = world.sink.add ((cases.flatMap fun case => Report.block labelRoot case
          (verdict context harness.config.rootLabel harness.pipeline world.files case)) ++
            Report.banner summary)) ∧
    ((¬ ∀ case ∈ cases, case.Readable world.files) →
      ∃ earlier case later error left, cases = earlier ++ case :: later ∧
        (∀ case ∈ earlier, case.Readable world.files) ∧ case.Offends world.files error ∧
        harness.run labelRoot world = .error error left ∧
        left.files = world.files ∧
        left.sink = world.sink.add ((earlier.flatMap fun case => Report.block labelRoot case
          (verdict context harness.config.rootLabel harness.pipeline world.files case)) ++
            Report.header labelRoot case.fileName)) := by
  constructor
  · intro hall
    have hrun := run_of_readable labelRoot hmode hdiffer hroom hcases hall
    refine ⟨_, _, hrun, rfl, rfl, rfl, ?_, Summary.exitCode_eq_zero_iff, rfl, ?_⟩
    · have hlength := cases.length_eq_countP_add_countP (regressed harness.pipeline world.files)
      simp only [Bool.not_eq_true, Bool.decide_eq_false] at hlength
      simp only [verdicts]
      omega
    · exact Sink.add_add
  · intro hsome
    obtain ⟨earlier, case, later, error, hsplit, hearlier, hoffends⟩ :=
      TestCase.exists_first_offending hsome
    have hcasesRun : harness.runCases labelRoot cases {} world =
        .error error (harness.afterOffence context labelRoot world earlier case) := by
      rw [hsplit]
      exact runCases_of_offends hmode hdiffer hroom hearlier hoffends {}
    refine ⟨earlier, case, later, error, harness.afterOffence context labelRoot world earlier case,
      hsplit, hearlier, hoffends, ?_, rfl, ?_⟩
    · rw [run_of_cases hcases]
      exact RunM.bind_of_error hcasesRun
    · exact Sink.add_add

/-! ### A directory with two sources -/

/-- A pipeline that gives sources back as they are. -/
def echo : Pipeline where
  State := Unit
  Program := Text
  initial := ()
  parse := fun state source _ => (⟨source, []⟩, state)
  serialize := fun _ program => program

/-- A verifying run of that pipeline over a directory. -/
def echoing : Harness where
  config := { root := .ofText "t".toList, extension := "s".toList }
  pipeline := echo
  differ := Diff.lineDiffer Diff.defaultContext

/-- The location of that directory. -/
def directoryT : Location := [.ofText "t".toList]

/-- The directory with two sources. -/
def twoSources : FileSystem :=
  ((FileSystem.empty.put directoryT .directory).put
    (.ofText "a.s".toList :: directoryT) (.file (Utf8.encode "one\n".toList))).put
    (.ofText "b.s".toList :: directoryT) (.file (Utf8.encode "two\n".toList))

/-- The file for the fixture of the first source. -/
def fixtureA : FoundFile := ⟨.ofText "t".toList, [], .ofText "a.fixture.s".toList⟩

/-- The directory with that fixture, which differs from its source in the line ending. -/
def oneFixture : FileSystem :=
  twoSources.put (fixtureA.name :: directoryT) (.file (Utf8.encode "one\r\n".toList))

/-- The case of the source of a given stem. -/
def caseOf (stem : String) : TestCase where
  id := stem.toList
  fileName := (stem ++ ".s").toList
  source := .ofText ("t/" ++ stem ++ ".s").toList
  fixture := .ofText ("t/" ++ stem ++ ".fixture.s").toList

theorem discover_twoSources :
    discover twoSources (.ofText "t".toList) "s".toList = .ok [caseOf "a", caseOf "b"] := by
  have hnames : twoSources.children directoryT =
      [.ofText "a.s".toList, .ofText "b.s".toList] :=
    FileSystem.children_eq_of_perm (by decide) (by decide)
  have hlocate : twoSources.locate true (.ofText "t".toList) =
      .ok (.found directoryT maxLinks) := by
    cbv
  have hwalk := FileSystem.walk_of_children hlocate rfl hnames
    (List.forall_mem_cons.mpr ⟨.file rfl, List.forall_mem_singleton.mpr (.file rfl)⟩)
  exact discover_eq_ok_iff.mpr ⟨_, hwalk, by decide +kernel⟩

theorem cases_oneFixture : echoing.cases oneFixture = .ok [caseOf "a", caseOf "b"] := by
  have htarget : twoSources.writeTarget (caseOf "a").fixture =
      .ok (fixtureA.name :: directoryT) := by
    cbv
  have hdiscover := discover_write_fixture discover_twoSources List.mem_cons_self
    (FileSystem.write_of_writeTarget htarget (Utf8.encode "one\r\n".toList))
  exact Config.cases_of_discover rfl (List.cons_ne_nil _ _) hdiscover

theorem fileText_oneFixture :
    oneFixture.fileText (caseOf "a").source = .ok "one\n".toList ∧
      oneFixture.fileText (caseOf "a").fixture = .ok "one\r\n".toList ∧
      oneFixture.fileText (caseOf "b").source = .ok "two\n".toList ∧
      oneFixture.fileText (caseOf "b").fixture = .error .notFound := by
  refine ⟨?_, ?_, ?_, by cbv⟩
  · exact FileSystem.fileText_of_content (by cbv)
  · exact FileSystem.fileText_of_content (by cbv)
  · exact FileSystem.fileText_of_content (by cbv)

theorem readable_oneFixture : ∀ case ∈ [caseOf "a", caseOf "b"], case.Readable oneFixture := by
  obtain ⟨hsource, hfixture, hother, hnone⟩ := fileText_oneFixture
  refine List.forall_mem_cons.mpr ⟨⟨⟨_, hsource⟩, .inr ⟨_, hfixture⟩⟩, ?_⟩
  exact List.forall_mem_singleton.mpr ⟨⟨_, hother⟩, .inl hnone⟩

/-- The first case passes, the second lacks its fixture. -/
theorem run_verify_oneFixture :
    ∃ summary left, echoing.run "t".toList ⟨oneFixture, {}, []⟩ = .ok summary left ∧
      summary.total = 2 ∧ summary.passed = 1 ∧ summary.failed = 1 ∧ summary.exitCode ≠ 0 := by
  have hroom : (World.mk oneFixture {} [] : World echoing.pipeline.State).sink.room = none := rfl
  obtain ⟨summary, left, hrun, htotal, -, hfailed, hpassed, hexit, -⟩ :=
    (run_verify "t".toList rfl rfl hroom cases_oneFixture).1 readable_oneFixture
  obtain ⟨hsource, hfixture, -, hnone⟩ := fileText_oneFixture
  have hpasses : regressed echo oneFixture (caseOf "a") = false := by
    simp only [regressed, freshOutput, caseOutput, hsource, hfixture]
    decide
  have hfails : regressed echo oneFixture (caseOf "b") = true := by simp [regressed, hnone]
  have hone : summary.failed = 1 := by
    rw [hfailed]
    exact (List.countP_cons_of_neg (Bool.eq_false_iff.mp hpasses)).trans
      (List.countP_cons_of_pos hfails)
  refine ⟨summary, left, hrun, htotal, ?_, hone, ?_⟩
  · rw [hpassed, hone]
    rfl
  · rw [Ne, hexit, hone]
    decide

end Harness

end GoldenFiles
