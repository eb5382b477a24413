import GoldenFiles.Proofs.Run.Creation
import GoldenFiles.Proofs.Run.Interruption

/-!
# What a run leaves behind

However a run ends, it has replaced the fixtures of the cases whose turn has come, and has changed
nothing else. A verifying run replaces none. A creating run has replaced those of all cases if it
goes through; otherwise it ends at a case, before or after the fixture of that case is written,
depending on what fails: reading the source, writing the fixture, or one of the two reports.

## Main definitions

* `Replaced` — the fixtures of some cases hold their outputs, and all else is as before
* `Stopped`, `Ended` — how a creating run is stopped, and how it ends, with the number of fixtures
  that it has written

## Main results

* `Created.replaced` — cases that have been created one after the other
* `Harness.runCases_create`, `Harness.run_create` — creating runs
* `Harness.run_replaces_fixtures` — a whole run
-/

namespace GoldenFiles

/-! ### Fixtures that have been replaced -/

variable {p : Pipeline} {fs after : FileSystem} {root : Path} {extension : Text}
  {cases all : List TestCase} {case other : TestCase}

/-- The fixtures of some cases hold the outputs of these cases, and everything else is as it was.
Outputs and places are those of the file system as it was. -/
structure Replaced (p : Pipeline) (fs after : FileSystem) (cases : List TestCase) : Prop where
  /-- Every one of the cases had an output and a place for its fixture, and there the output is. -/
  output : ∀ case ∈ cases, ∃ actual state place,
    caseOutput p fs p.initial case = .ok (actual, state) ∧
      fs.locate true case.fixture = .ok place ∧
      after.lookup place.location = some (.file (Utf8.encode actual))
  /-- Where no fixture of these cases belongs, there is what was there. -/
  kept : ∀ location, (∀ case ∈ cases, ∀ place, fs.locate true case.fixture = .ok place →
    place.location ≠ location) → after.lookup location = fs.lookup location
  /-- Relative paths lead where they led. -/
  workingDirectory : after.workingDirectory = fs.workingDirectory

theorem Replaced.refl (p : Pipeline) (fs : FileSystem) : Replaced p fs fs [] where
  output := List.forall_mem_nil _
  kept _ _ := rfl
  workingDirectory := rfl

/-- A case has the same output before and after the fixture of a case is written. -/
theorem caseOutput_of_write {content : Bytes} {output : Text × p.State} (hlinks : fs.LinkFree)
    (h : discover fs root extension = .ok all) (hcase : case ∈ all) (hother : other ∈ all)
    (hwrite : fs.write case.fixture content = .ok after)
    (houtput : caseOutput p after p.initial other = .ok output) :
    caseOutput p fs p.initial other = .ok output := by
  unfold caseOutput at houtput ⊢
  cases hafter : after.fileText other.source with
  | error fault => simp [hafter] at houtput
  | ok source =>
    have hsource := (fileText_source_write_iff hlinks h hcase hother hwrite).mp hafter
    rw [hafter] at houtput
    rwa [hsource]

/-- Cases that have been created one after the other have their fixtures replaced. -/
theorem Created.replaced (hcreated : Created p fs cases after) (hlinks : fs.LinkFree)
    (h : discover fs root extension = .ok all) (hcases : ∀ case ∈ cases, case ∈ all) :
    Replaced p fs after cases := by
  induction hcreated with
  | nil => exact .refl p _
  | @cons fs between after case rest source hsource hwrite hrest ih =>
    obtain ⟨hcase, hcasesRest⟩ := List.forall_mem_cons.mp hcases
    have hlinksBetween := hlinks.write hwrite
    have hbetween := discover_write_fixture h hcase hwrite
    have hreplaced := ih hlinksBetween hbetween hcasesRest
    obtain ⟨place, hplace, hdir, hput⟩ := FileSystem.exists_of_write_eq_ok hwrite
    have htakes := hlinks.takes hdir
    -- Where the other fixtures belong does not depend on the one that is written first.
    have hbefore : ∀ (other : TestCase) (at_ : Place), between.locate true other.fixture = .ok at_ →
        ∃ before, fs.locate true other.fixture = .ok before ∧ before.location = at_.location := by
      intro other at_ hat
      rw [hput] at hat
      exact FileSystem.locate_of_put htakes hat
    have hothers : ∀ other ∈ rest, ∃ actual state place,
        caseOutput p fs p.initial other = .ok (actual, state) ∧
          fs.locate true other.fixture = .ok place ∧
          after.lookup place.location = some (.file (Utf8.encode actual)) := by
      intro other hother
      obtain ⟨actual, state, at_, houtput, hat, hlookup⟩ := hreplaced.output other hother
      obtain ⟨before, hlocate, hlocation⟩ := hbefore other at_ hat
      refine ⟨actual, state, before, ?_, hlocate, hlocation ▸ hlookup⟩
      exact caseOutput_of_write hlinks h hcase (hcasesRest other hother) hwrite houtput
    refine ⟨List.forall_mem_cons.mpr ⟨?_, hothers⟩, ?_, ?_⟩
    · by_cases hagain : case ∈ rest
      · exact hothers case hagain
      · refine ⟨freshOutput p fs case, p.leftBy fs case, place, caseOutput_of_source hsource,
          hplace, ?_⟩
        rw [hreplaced.kept place.location, hput, FileSystem.lookup_put_self htakes.not_suffix]
        intro other hother at_ hat heq
        obtain ⟨before, hlocate, hlocation⟩ := hbefore other at_ hat
        have hsame := eq_of_fixture_eq hlinks h hcase (hcasesRest other hother) hplace hlocate
          (heq.symm.trans hlocation.symm)
        exact hagain (hsame ▸ hother)
    · intro location hnone
      obtain ⟨hnoneCase, hnoneRest⟩ := List.forall_mem_cons.mp hnone
      rw [hreplaced.kept location, hput, FileSystem.lookup_put_of_ne (hnoneCase place hplace).symm]
      intro other hother at_ hat
      obtain ⟨before, hlocate, hlocation⟩ := hbefore other at_ hat
      exact hlocation ▸ hnoneRest other hother before hlocate
    · rw [hreplaced.workingDirectory, hput, FileSystem.workingDirectory_put]

namespace Harness

variable {harness : Harness}

/-! ### Creating runs -/

theorem settled_create_error {error : HarnessError} {case : TestCase}
    (hmode : harness.config.mode = .create) (h : harness.settled fs case = .error error) :
    ∃ fault, error = .readSource case.source fault ∨ error = .writeFixture case.fixture fault := by
  unfold settled at h
  cases hsource : fs.fileText case.source with
  | error fault =>
    simp only [caseOutput, hsource, Except.error.injEq] at h
    exact ⟨fault, .inl h.symm⟩
  | ok source =>
    rw [caseOutput_of_source hsource] at h
    simp only [hmode, settle, createFixture] at h
    cases hwrite : fs.write case.fixture
        (Utf8.encode (freshOutput harness.pipeline fs case)) with
    | error fault =>
      simp only [hwrite, Except.error.injEq] at h
      exact ⟨fault, .inr h.symm⟩
    | ok written => simp [hwrite] at h

end Harness

/-- The blocks of cases that have been created. -/
def Report.createdBlocks (labelRoot : Text) (cases : List TestCase) : StyledText :=
  cases.flatMap fun case => Report.block labelRoot case .created

/-- How cases in turn stop a creating run. The number tells how many fixtures have been written
before that, and `sink` is the sink at first. -/
inductive Stopped (labelRoot : Text) (sink : Sink) (cases : List TestCase) :
    Nat → Sink → HarnessError → Prop
  /-- The header of a case cannot be written. -/
  | header {k : Nat} {case : TestCase} {between left : Sink} {fault : Fault}
    (hcase : cases[k]? = some case)
    (hbefore : sink.write (Report.createdBlocks labelRoot (cases.take k)) = (between, none))
    (hsink : sink.write (Report.createdBlocks labelRoot (cases.take k) ++
      Report.header labelRoot case.fileName) = (left, some fault)) :
    Stopped labelRoot sink cases k left (.output fault)
  /-- The source of a case cannot be read. -/
  | source {k : Nat} {case : TestCase} {left : Sink} {fault : Fault}
    (hcase : cases[k]? = some case)
    (hsink : sink.write (Report.createdBlocks labelRoot (cases.take k) ++
      Report.header labelRoot case.fileName) = (left, none)) :
    Stopped labelRoot sink cases k left (.readSource case.source fault)
  /-- The fixture of a case cannot be written. -/
  | fixture {k : Nat} {case : TestCase} {left : Sink} {fault : Fault}
    (hcase : cases[k]? = some case)
    (hsink : sink.write (Report.createdBlocks labelRoot (cases.take k) ++
      Report.header labelRoot case.fileName) = (left, none)) :
    Stopped labelRoot sink cases k left (.writeFixture case.fixture fault)
  /-- The outcome of a case cannot be written. Its fixture has been. -/
  | outcome {k : Nat} {case : TestCase} {between left : Sink} {fault : Fault}
    (hcase : cases[k]? = some case)
    (hbefore : sink.write (Report.createdBlocks labelRoot (cases.take k) ++
      Report.header labelRoot case.fileName) = (between, none))
    (hsink : sink.write (Report.createdBlocks labelRoot (cases.take (k + 1))) =
      (left, some fault)) :
    Stopped labelRoot sink cases (k + 1) left (.output fault)

/-- How a creating run ends. The number tells how many fixtures it has written. -/
inductive Ended (labelRoot : Text) (sink : Sink) (cases : List TestCase) :
    Nat → Sink → Option HarnessError → Prop
  /-- All cases have been created, and the verdict on them has been written. -/
  | done {left : Sink}
    (hsink : sink.write (Report.createdBlocks labelRoot cases ++
      Report.banner { total := cases.length, created := cases.length }) = (left, none)) :
    Ended labelRoot sink cases cases.length left none
  /-- All cases have been created, and the verdict on them cannot be written. -/
  | banner {between left : Sink} {fault : Fault}
    (hbefore : sink.write (Report.createdBlocks labelRoot cases) = (between, none))
    (hsink : sink.write (Report.createdBlocks labelRoot cases ++
      Report.banner { total := cases.length, created := cases.length }) = (left, some fault)) :
    Ended labelRoot sink cases cases.length left (some (.output fault))
  /-- A case has stopped the run. -/
  | stopped {m : Nat} {left : Sink} {error : HarnessError}
    (h : Stopped labelRoot sink cases m left error) :
    Ended labelRoot sink cases m left (some error)

namespace Stopped

variable {labelRoot : Text} {sink between left : Sink} {m : Nat} {error : HarnessError}

theorem le_length (h : Stopped labelRoot sink cases m left error) : m ≤ cases.length := by
  have hlt {k : Nat} {case : TestCase} (hcase : cases[k]? = some case) : k < cases.length :=
    (List.getElem?_eq_some_iff.mp hcase).1
  cases h with
  | header hcase => exact Nat.le_of_lt (hlt hcase)
  | source hcase => exact Nat.le_of_lt (hlt hcase)
  | fixture hcase => exact Nat.le_of_lt (hlt hcase)
  | outcome hcase => exact hlt hcase

/-- A run is stopped by the same case if another one comes before. -/
theorem cons (h : Stopped labelRoot between cases m left error)
    (hblock : sink.write (Report.block labelRoot case .created) = (between, none)) :
    Stopped labelRoot sink (case :: cases) (m + 1) left error := by
  have hwrite (text : StyledText) :
      between.write text = sink.write (Report.block labelRoot case .created ++ text) :=
    Sink.write_write hblock
  cases h with
  | header hcase hbefore hsink =>
    rw [hwrite] at hbefore
    rw [hwrite, ← List.append_assoc] at hsink
    exact .header hcase hbefore hsink
  | source hcase hsink =>
    rw [hwrite, ← List.append_assoc] at hsink
    exact .source hcase hsink
  | fixture hcase hsink =>
    rw [hwrite, ← List.append_assoc] at hsink
    exact .fixture hcase hsink
  | outcome hcase hbefore hsink =>
    rw [hwrite, ← List.append_assoc] at hbefore
    rw [hwrite] at hsink
    exact .outcome hcase hbefore hsink

end Stopped

namespace Harness

variable {harness : Harness}

/-- What creating runs do to cases in turn. Either all of them are created and their blocks written,
or the first of them that is stopped ends the run. -/
theorem runCases_create (labelRoot : Text) (hmode : harness.config.mode = .create)
    (cases : List TestCase) (summary : Summary) (world : World harness.pipeline.State) :
    (∃ left, harness.runCases labelRoot cases summary world =
        .ok { summary with
          total := summary.total + cases.length
          created := summary.created + cases.length } left ∧
      world.sink.write (Report.createdBlocks labelRoot cases) = (left.sink, none) ∧
      Created harness.pipeline world.files cases left.files) ∨
    (∃ m left error, harness.runCases labelRoot cases summary world = .error error left ∧
      Stopped labelRoot world.sink cases m left.sink error ∧
      Created harness.pipeline world.files (cases.take m) left.files) := by
  induction cases generalizing world summary with
  | nil => exact .inl ⟨world, rfl, Sink.write_nil, .nil⟩
  | cons case rest ih =>
    have hcase := harness.reportCase_ends labelRoot case world
    generalize hended : harness.reportCase labelRoot case world = ended at hcase
    cases hcase with
    | header hheader =>
      refine .inr ⟨0, _, _, RunM.bind_of_error hended, ?_, .nil⟩
      exact .header rfl Sink.write_nil hheader
    | refused hheader hrefused =>
      refine .inr ⟨0, _, _, RunM.bind_of_error hended, ?_, .nil⟩
      obtain ⟨fault, rfl | rfl⟩ := settled_create_error hmode hrefused
      · exact .source rfl hheader
      · exact .fixture rfl hheader
    | outcome hheader hsettled hblock =>
      obtain ⟨⟨source, hsource⟩, hcreated, hwrite⟩ := settled_create hmode hsettled
      refine .inr ⟨1, _, _, RunM.bind_of_error hended, ?_, .cons hsource hwrite .nil⟩
      rw [hcreated] at hblock
      refine .outcome rfl hheader ?_
      simpa [Report.createdBlocks] using hblock
    | settled hsettled hblock =>
      obtain ⟨⟨source, hsource⟩, hcreated, hwrite⟩ := settled_create hmode hsettled
      rw [hcreated] at hblock
      rcases ih (summary.record _) _ with
        ⟨left, hrun, hsink, hrest⟩ | ⟨m, left, error, hrun, hstopped, hrest⟩
      · refine .inl ⟨left, (RunM.bind_of_ok hended).trans (hrun.trans ?_), ?_, ?_⟩
        · simp only [Summary.record, hcreated, List.length_cons, EStateM.Result.ok.injEq,
            Summary.mk.injEq, and_true]
          omega
        · rw [Sink.write_write hblock] at hsink
          exact hsink
        · exact .cons hsource hwrite hrest
      · refine .inr ⟨m + 1, left, error, (RunM.bind_of_ok hended).trans hrun, ?_, ?_⟩
        · exact hstopped.cons hblock
        · exact .cons hsource hwrite hrest

/-- A creating run, with the fixtures that it has written. -/
theorem run_create {world : World harness.pipeline.State} (labelRoot : Text)
    (hmode : harness.config.mode = .create)
    (hcases : harness.cases world.files = .ok cases) :
    ∃ m ≤ cases.length,
      Created harness.pipeline world.files (cases.take m)
        (RunM.after (harness.run labelRoot world)).files ∧
      Ended labelRoot world.sink cases m (RunM.after (harness.run labelRoot world)).sink
        (RunM.failure (harness.run labelRoot world)) := by
  rw [run_of_cases hcases]
  rcases runCases_create labelRoot hmode cases {} world with
    ⟨left, hrun, hblocks, hcreated⟩ | ⟨m, left, error, hrun, hstopped, hcreated⟩
  · simp only [Nat.zero_add] at hrun
    rw [RunM.bind_of_ok hrun]
    refine ⟨cases.length, Nat.le_refl _, ?_⟩
    rw [List.take_length]
    have hwrite : left.sink.write
        (Report.banner { total := cases.length, created := cases.length }) =
          world.sink.write (Report.createdBlocks labelRoot cases ++
            Report.banner { total := cases.length, created := cases.length }) :=
      Sink.write_write hblocks
    cases hbanner : world.sink.write (Report.createdBlocks labelRoot cases ++
        Report.banner { total := cases.length, created := cases.length }) with
    | mk sink failed =>
      rw [hbanner] at hwrite
      cases failed with
      | none =>
        rw [RunM.bind_of_ok (RunM.report_of_written hwrite)]
        exact ⟨hcreated, .done hbanner⟩
      | some fault =>
        rw [RunM.bind_of_error (RunM.report_of_cut hwrite)]
        exact ⟨hcreated, .banner hblocks hbanner⟩
  · rw [RunM.bind_of_error hrun]
    exact ⟨m, hstopped.le_length, hcreated, .stopped hstopped⟩

/-! ### All runs -/

theorem settled_verify {case : TestCase} {result : CaseResult} {files : FileSystem}
    (hmode : harness.config.mode = .verify)
    (h : harness.settled fs case = .ok (result, files)) : files = fs := by
  unfold settled at h
  cases houtput : caseOutput harness.pipeline fs harness.pipeline.initial case with
  | error error => simp [houtput] at h
  | ok output =>
    simp only [houtput, hmode, settle] at h
    cases hverify : verifyFixture fs case output.1 harness.differ harness.config.rootLabel with
    | error error => simp [hverify] at h
    | ok outcome =>
      simp only [hverify, Except.ok.injEq, Prod.mk.injEq] at h
      exact h.2.symm

/-- Settling a case leaves the files as they are or writes its fixture. -/
theorem settled_files {case : TestCase} {result : CaseResult} {files : FileSystem}
    (h : harness.settled fs case = .ok (result, files)) :
    files = fs ∨ ∃ content, fs.write case.fixture content = .ok files := by
  cases hmode : harness.config.mode with
  | verify => exact .inl (settled_verify hmode h)
  | create => exact .inr ⟨_, (settled_create hmode h).2.2⟩

theorem files_run_verify (labelRoot : Text) (world : World harness.pipeline.State)
    (hmode : harness.config.mode = .verify) :
    (RunM.after (harness.run labelRoot world)).files = world.files := by
  refine files_run (P := fun files => files = world.files) rfl ?_
  intro cases _ case _ fs result files hfs hsettled
  exact (settled_verify hmode hsettled).trans hfs

/-- However a run ends, it has replaced the fixtures of the first of its cases, and has changed
nothing else. A run that finds no cases does nothing at all. A verifying run replaces no fixture. A
creating run replaces all if it goes through, and otherwise those of the cases before the one that
stops it, and of that case itself if it is stopped by its outcome. -/
theorem run_replaces_fixtures (harness : Harness) (labelRoot : Text)
    (world : World harness.pipeline.State) (hlinks : world.files.LinkFree) :
    (∀ error, harness.cases world.files = .error error →
      harness.run labelRoot world = .error error world) ∧
    (∀ cases, harness.cases world.files = .ok cases →
      ∃ m ≤ cases.length,
        Replaced harness.pipeline world.files (RunM.after (harness.run labelRoot world)).files
          (cases.take m) ∧
        (harness.config.mode = .verify →
          m = 0 ∧ (RunM.after (harness.run labelRoot world)).files = world.files) ∧
        (harness.config.mode = .create →
          Ended labelRoot world.sink cases m (RunM.after (harness.run labelRoot world)).sink
            (RunM.failure (harness.run labelRoot world)))) := by
  refine ⟨fun error herror => run_of_error herror, ?_⟩
  intro cases hcases
  cases hmode : harness.config.mode with
  | verify =>
    have hfiles := harness.files_run_verify labelRoot world hmode
    refine ⟨0, Nat.zero_le _, ?_, fun _ => ⟨rfl, hfiles⟩, nofun⟩
    rw [hfiles]
    exact .refl _ _
  | create =>
    obtain ⟨all, hdiscover, hall⟩ := exists_discover_of_cases hcases
    obtain ⟨m, hm, hcreated, hended⟩ := run_create labelRoot hmode hcases
    refine ⟨m, hm, ?_, nofun, fun _ => hended⟩
    exact hcreated.replaced hlinks hdiscover fun case hcase =>
      hall case (List.mem_of_mem_take hcase)

/-- A sink that is full within the header of the second case. -/
theorem run_replaces_fixtures_fullSink :
    twoSources.LinkFree ∧ ∃ m ≤ 2,
      Replaced echo twoSources (RunM.after ((Harness.mk { echoing.config with mode := .create } echo
        echoing.differ).run "t".toList ⟨twoSources, { room := some 30 }, []⟩)).files
          ([caseOf "a", caseOf "b"].take m) := by
  have hcases : (Harness.mk { echoing.config with mode := .create } echo echoing.differ).cases
      twoSources = .ok [caseOf "a", caseOf "b"] :=
    Config.cases_of_discover rfl (List.cons_ne_nil _ _) discover_twoSources
  obtain ⟨m, hm, hreplaced, -⟩ := (run_replaces_fixtures _ "t".toList
    ⟨twoSources, { room := some 30 }, []⟩ linkFree_twoSources).2 _ hcases
  exact ⟨linkFree_twoSources, m, hm, hreplaced⟩

end Harness

end GoldenFiles
