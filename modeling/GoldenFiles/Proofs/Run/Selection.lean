import GoldenFiles.Proofs.Discovery.Sources
import GoldenFiles.Proofs.Report.Room
import GoldenFiles.Proofs.Run.Effects

/-!
# Selective runs

A run over selected cases is what is left of a run over all cases if the others are left out. No
case leaves anything behind that another one would notice: each has an instance of its own, and in a
file system without links no fixture is the source or the fixture of another case. A case therefore
has one result, which the cases run before it do not change, and runs differ only in the cases that
they take.

## Main definitions

* `Harness.Settles` — the result of a case
* `Report.blocks` — the blocks of cases with given results
* `Pipeline.Parses` — an instance that has parsed the source of a case, and nothing else
* `Ran` — what a run over some cases has reported and used

## Main results

* `Harness.settles_settled_iff` — a case has the same result after another one
* `Harness.run_of_settles`, `Harness.settles_of_run` — runs that go through
* `Harness.run_selection` — a selective run and the full run
-/

namespace GoldenFiles

variable {p : Pipeline} {fs after : FileSystem} {root : Path} {extension : Text}
  {cases all : List TestCase} {case other : TestCase} {result : CaseResult}
  {results : TestCase → CaseResult} {labelRoot : Text} {source : Text}

/-- The blocks of cases that have ended with given results. -/
def Report.blocks (labelRoot : Text) (results : TestCase → CaseResult) (cases : List TestCase) :
    StyledText :=
  cases.flatMap fun case => Report.block labelRoot case (results case).outcome

/-! ### One case after another -/

namespace Harness

variable {harness : Harness}

/-- A case ends with a result. -/
def Settles (harness : Harness) (fs : FileSystem) (case : TestCase) (result : CaseResult) : Prop :=
  ∃ files, harness.settled fs case = .ok (result, files)

theorem Settles.unique {other : CaseResult} (h : harness.Settles fs case result)
    (hother : harness.Settles fs case other) : result = other := by
  obtain ⟨files, h⟩ := h
  obtain ⟨otherFiles, hother⟩ := hother
  rw [h] at hother
  cases hother
  rfl

theorem Settles.exists_source (h : harness.Settles fs case result) :
    ∃ source, fs.fileText case.source = .ok source := by
  obtain ⟨files, h⟩ := h
  unfold settled at h
  cases hsource : fs.fileText case.source with
  | error fault => simp [caseOutput, hsource] at h
  | ok source => exact ⟨source, rfl⟩

section

variable (hlinks : fs.LinkFree) (h : discover fs root extension = .ok all) (hcase : case ∈ all)
  (hsettled : harness.settled fs case = .ok (result, after))

include hlinks h hcase hsettled

/-- Settling a case makes no links and leaves the cases as they are. -/
theorem linkFree_settled : after.LinkFree ∧ discover after root extension = .ok all := by
  rcases settled_files hsettled with rfl | ⟨content, hwrite⟩
  · exact ⟨hlinks, h⟩
  · exact ⟨hlinks.write hwrite, discover_write_fixture h hcase hwrite⟩

theorem fileText_settled_iff (hother : other ∈ all) :
    after.fileText other.source = .ok source ↔ fs.fileText other.source = .ok source := by
  rcases settled_files hsettled with rfl | ⟨content, hwrite⟩
  · rfl
  · exact fileText_source_write_iff hlinks h hcase hother hwrite

/-- A case has the same result after another one, or after itself, as before. -/
theorem settles_settled_iff (hother : other ∈ all) {ended : CaseResult} :
    harness.Settles after other ended ↔ harness.Settles fs other ended := by
  cases hmode : harness.config.mode with
  | verify =>
    obtain rfl := settled_verify hmode hsettled
    rfl
  | create =>
    obtain ⟨-, -, hwrite⟩ := settled_create hmode hsettled
    obtain ⟨place, -, hdir, hput⟩ := FileSystem.exists_of_write_eq_ok hwrite
    have hwrites (content : Bytes) : (∃ files, after.write other.fixture content = .ok files) ↔
        ∃ files, fs.write other.fixture content = .ok files := by
      rw [hput]
      exact FileSystem.exists_write_put_iff (hlinks.takes hdir) content
    simp only [Settles, settled_create_iff hmode, exists_and_left, hwrites,
      fileText_source_write_iff hlinks h hcase hother hwrite]
    refine and_congr_right ?_
    rintro ⟨source, hsource⟩
    have hafter := fileText_source_write hlinks h hcase hother hwrite hsource
    rw [freshOutput_congr (hafter.trans hsource.symm)]

end

/-! ### Cases in turn -/

variable {world left : World harness.pipeline.State} {summary total : Summary} {sink : Sink}

theorem write_block_of_reportCase (h : harness.reportCase labelRoot case world = .ok result left) :
    world.sink.write (Report.block labelRoot case result.outcome) = (left.sink, none) := by
  have hends := harness.reportCase_ends labelRoot case world
  rw [h] at hends
  cases hends with
  | settled hsettled hblock => exact hblock

/-- A case that is settled, and for whose block there is room, ends with that block. -/
theorem reportCase_of_block {files : FileSystem}
    (hsettled : harness.settled world.files case = .ok (result, files))
    (hblock : world.sink.write (Report.block labelRoot case result.outcome) = (sink, none)) :
    harness.reportCase labelRoot case world =
      .ok result { harness.withInstance world case with files := files, sink := sink } := by
  obtain ⟨headed, hheader, houtcome⟩ := Sink.exists_of_write_append hblock
  exact (reportCase_of_written hheader hsettled).trans
    (RunM.bind_of_ok (RunM.report_of_written houtcome))

/-- If cases in turn all end, each of them is settled with a result that it would have had as the
first one, and the blocks for these results have been written. -/
theorem settles_of_runCases (hlinks : world.files.LinkFree)
    (h : discover world.files root extension = .ok all) (hcases : ∀ case ∈ cases, case ∈ all)
    (hrun : harness.runCases labelRoot cases summary world = .ok total left) :
    (∀ case ∈ cases, ∃ result, harness.Settles world.files case result) ∧
      ∀ results : TestCase → CaseResult,
        (∀ case ∈ cases, harness.Settles world.files case (results case)) →
          world.sink.write (Report.blocks labelRoot results cases) = (left.sink, none) := by
  induction cases generalizing world summary with
  | nil =>
    cases hrun
    exact ⟨List.forall_mem_nil _, fun _ _ => Sink.write_nil⟩
  | cons case rest ih =>
    obtain ⟨hcase, hcasesRest⟩ := List.forall_mem_cons.mp hcases
    obtain ⟨result, between, hreport, hrest⟩ := RunM.exists_of_bind_eq_ok hrun
    have hsettled := settled_of_reportCase hreport
    have hblock := write_block_of_reportCase hreport
    obtain ⟨hlinksBetween, hbetween⟩ := linkFree_settled hlinks h hcase hsettled
    obtain ⟨hsettles, hblocks⟩ := ih hlinksBetween hbetween hcasesRest hrest
    have hsame {other : TestCase} (hother : other ∈ rest) {ended : CaseResult} :
        harness.Settles between.files other ended ↔ harness.Settles world.files other ended :=
      settles_settled_iff hlinks h hcase hsettled (hcasesRest other hother)
    refine ⟨List.forall_mem_cons.mpr ⟨⟨result, _, hsettled⟩, ?_⟩, ?_⟩
    · intro other hother
      obtain ⟨ended, hended⟩ := hsettles other hother
      exact ⟨ended, (hsame hother).mp hended⟩
    · intro results hresults
      obtain ⟨hresult, hresultsRest⟩ := List.forall_mem_cons.mp hresults
      obtain rfl := Settles.unique ⟨_, hsettled⟩ hresult
      have hothers := hblocks results fun other hother =>
        (hsame hother).mpr (hresultsRest other hother)
      rw [Sink.write_write hblock] at hothers
      exact hothers

/-- Cases that are all settled, and for whose blocks there is room, all end. -/
theorem runCases_of_settles (hlinks : world.files.LinkFree)
    (h : discover world.files root extension = .ok all) (hcases : ∀ case ∈ cases, case ∈ all)
    (hresults : ∀ case ∈ cases, harness.Settles world.files case (results case))
    (hsink : world.sink.write (Report.blocks labelRoot results cases) = (sink, none))
    (summary : Summary) :
    ∃ left, harness.runCases labelRoot cases summary world =
        .ok ((cases.map results).foldl .record summary) left ∧ left.sink = sink ∧
      left.instances = world.instances ++ cases.map (harness.pipeline.leftBy world.files) := by
  induction cases generalizing world summary with
  | nil =>
    rw [Report.blocks, List.flatMap_nil, Sink.write_nil] at hsink
    cases hsink
    exact ⟨world, rfl, rfl, (List.append_nil _).symm⟩
  | cons case rest ih =>
    obtain ⟨hcase, hcasesRest⟩ := List.forall_mem_cons.mp hcases
    obtain ⟨⟨files, hsettled⟩, hresultsRest⟩ := List.forall_mem_cons.mp hresults
    obtain ⟨between, hblock, hblocks⟩ := Sink.exists_of_write_append hsink
    obtain ⟨hlinksFiles, hfiles⟩ := linkFree_settled hlinks h hcase hsettled
    have hothers :
        ∀ other ∈ rest, harness.Settles files other (results other) := fun other hother =>
      (settles_settled_iff hlinks h hcase hsettled (hcasesRest other hother)).mpr
        (hresultsRest other hother)
    -- The others leave their instances as they would have without this case.
    have hinstances : rest.map (harness.pipeline.leftBy files) =
        rest.map (harness.pipeline.leftBy world.files) := by
      apply List.map_congr_left
      intro other hother
      obtain ⟨source, hsource⟩ := (hresultsRest other hother).exists_source
      have hafter :=
        (fileText_settled_iff hlinks h hcase hsettled (hcasesRest other hother)).mpr hsource
      exact leftBy_congr (hafter.trans hsource.symm)
    let next : World harness.pipeline.State :=
      { harness.withInstance world case with files := files, sink := between }
    have hlinksNext : next.files.LinkFree := hlinksFiles
    obtain ⟨left, hrun, hleft, hused⟩ :=
      ih hlinksNext hfiles hcasesRest hothers hblocks (summary.record (results case))
    refine ⟨left, (RunM.bind_of_ok (reportCase_of_block hsettled hblock)).trans hrun, hleft, ?_⟩
    rw [hused]
    simp [next, withInstance, hinstances]

end Harness

/-! ### Whole runs -/

/-- The state is that of an instance that has parsed the source of a case, and nothing else. -/
def Pipeline.Parses (p : Pipeline) (fs : FileSystem) (case : TestCase) (state : p.State) : Prop :=
  ∃ source, fs.fileText case.source = .ok source ∧
    state = (p.parse p.initial (Text.normalize source) case.fileName).2

/-- What a run over cases with given results has left behind: it has counted these results, has
written the blocks for them and the verdict, and has used one instance for each of the cases, in
their order. -/
structure Ran (p : Pipeline) (labelRoot : Text) (world : World p.State)
    (results : TestCase → CaseResult)
    (cases : List TestCase) (summary : Summary) (left : World p.State) : Prop where
  counted : summary = Summary.ofResults (cases.map results)
  written : world.sink.write (Report.blocks labelRoot results cases ++ Report.banner summary) =
    (left.sink, none)
  used : ∃ states, left.instances = world.instances ++ states ∧
    List.Forall₂ (p.Parses world.files) cases states

theorem Pipeline.parses_leftBy (h : fs.fileText case.source = .ok source) :
    p.Parses fs case (p.leftBy fs case) := by
  refine ⟨source, h, ?_⟩
  simp [leftBy, caseOutput, output, h]

theorem forall₂_parses (h : ∀ case ∈ cases, ∃ source, fs.fileText case.source = .ok source) :
    List.Forall₂ (p.Parses fs) cases (cases.map (p.leftBy fs)) := by
  induction cases with
  | nil => exact .nil
  | cons case rest ih =>
    obtain ⟨⟨source, hsource⟩, hrest⟩ := List.forall_mem_cons.mp h
    exact .cons (Pipeline.parses_leftBy hsource) (ih hrest)

/-- Fewer results count fewer failures. -/
theorem Summary.failed_ofResults_le {few many : List CaseResult} (h : few.Sublist many) :
    (ofResults few).failed ≤ (ofResults many).failed := by
  rw [ofResults, ofResults, foldl_record, foldl_record]
  exact Nat.add_le_add_left h.countP_le _

/-- The report on some of the cases is no longer than that on all of them. -/
theorem Report.size_report_le {coloured : Bool} (h : cases.Sublist all) :
    (blocks labelRoot results cases ++ banner (.ofResults (cases.map results))).size coloured ≤
      (blocks labelRoot results all ++ banner (.ofResults (all.map results))).size coloured := by
  rw [StyledText.size_append, StyledText.size_append]
  exact Nat.add_le_add (StyledText.size_flatMap_le h _)
    (size_banner_le (Summary.failed_ofResults_le (h.map results)))

namespace Harness

variable {harness : Harness} {world left : World harness.pipeline.State} {summary total : Summary}
  {sink : Sink}

/-- A run goes through if all of its cases are settled and there is room for the report on them. -/
theorem run_of_settles (hlinks : world.files.LinkFree)
    (h : discover world.files root extension = .ok all) (hall : ∀ case ∈ cases, case ∈ all)
    (hcases : harness.cases world.files = .ok cases)
    (hresults : ∀ case ∈ cases, harness.Settles world.files case (results case))
    (hsink : world.sink.write (Report.blocks labelRoot results cases ++
      Report.banner (Summary.ofResults (cases.map results))) = (sink, none)) :
    ∃ left, harness.run labelRoot world = .ok (Summary.ofResults (cases.map results)) left ∧
      Ran harness.pipeline labelRoot world results cases
        (Summary.ofResults (cases.map results)) left := by
  obtain ⟨between, hblocks, hbanner⟩ := Sink.exists_of_write_append hsink
  obtain ⟨settled, hrun, hbetween, hinstances⟩ :=
    runCases_of_settles hlinks h hall hresults hblocks {}
  subst hbetween
  refine ⟨{ settled with sink := sink }, ?_, rfl, hsink, _, hinstances, ?_⟩
  · rw [run_of_cases hcases]
    exact (RunM.bind_of_ok hrun).trans (RunM.bind_of_ok (RunM.report_of_written hbanner))
  · exact forall₂_parses fun case hmem => (hresults case hmem).exists_source

/-- A run that goes through has settled all of its cases and has found room for the report on them.
-/
theorem settles_of_run (hlinks : world.files.LinkFree)
    (h : discover world.files root extension = .ok all) (hall : ∀ case ∈ cases, case ∈ all)
    (hcases : harness.cases world.files = .ok cases)
    (hrun : harness.run labelRoot world = .ok total left) :
    (∀ case ∈ cases, ∃ result, harness.Settles world.files case result) ∧
      ∀ results : TestCase → CaseResult,
        (∀ case ∈ cases, harness.Settles world.files case (results case)) →
          Ran harness.pipeline labelRoot world results cases total left := by
  have hthrough := hrun
  rw [run_of_cases hcases] at hrun
  obtain ⟨summary, settled, hsettled, hrun⟩ := RunM.exists_of_bind_eq_ok hrun
  obtain ⟨_, reported, hreport, -⟩ := RunM.exists_of_bind_eq_ok hrun
  obtain ⟨hsettles, hblocks⟩ := settles_of_runCases hlinks h hall hsettled
  refine ⟨hsettles, ?_⟩
  intro results hresults
  obtain ⟨_, hcounted, -, -⟩ := runCases_of_settles hlinks h hall hresults (hblocks _ hresults) {}
  rw [hsettled] at hcounted
  cases hcounted
  have hbanner := RunM.write_of_report hreport
  rw [Sink.write_write (hblocks _ hresults)] at hbanner
  obtain ⟨_, hagain, hran⟩ := run_of_settles hlinks h hall hcases hresults hbanner
  rw [hthrough] at hagain
  cases hagain
  exact hran

/-- A creating run that goes through has created its cases. -/
theorem created_of_cases (hmode : harness.config.mode = .create)
    (hcases : harness.cases world.files = .ok cases)
    (hrun : harness.run labelRoot world = .ok total left) :
    Created harness.pipeline world.files cases left.files := by
  obtain ⟨found, hfound, hcreated, -⟩ := created_of_run hmode hrun
  rw [hcases] at hfound
  cases hfound
  exact hcreated

/-- A run that goes through changes the fixtures of its cases only, and that if it creates them. -/
theorem lookup_of_run (hlinks : world.files.LinkFree)
    (h : discover world.files root extension = .ok all) (hall : ∀ case ∈ cases, case ∈ all)
    (hcases : harness.cases world.files = .ok cases)
    (hrun : harness.run labelRoot world = .ok total left) {location : Location}
    (hnone : harness.config.mode = .create → ∀ case ∈ cases, ∀ place,
      world.files.locate true case.fixture = .ok place → place.location ≠ location) :
    left.files.lookup location = world.files.lookup location := by
  cases hmode : harness.config.mode with
  | verify =>
    have hfiles := files_run_verify labelRoot world hmode
    rw [hrun, RunM.after] at hfiles
    rw [hfiles]
  | create =>
    exact ((created_of_cases hmode hcases hrun).replaced hlinks h hall).kept location (hnone hmode)

end Harness

/-! ### Selections -/

section

variable {config : Config} {selection : List Text}

theorem cases_of_selection (h : discover fs config.root config.extension = .ok all)
    (hmatch : ∃ case ∈ all, case.id ∈ selection) :
    Config.cases { config with selection := selection } fs =
      .ok (all.filter (·.id ∈ selection)) := by
  obtain ⟨case, hcase, hid⟩ := hmatch
  have hmem : case ∈ all.filter (·.id ∈ selection) :=
    List.mem_filter.mpr ⟨hcase, by simpa using hid⟩
  obtain ⟨first, rest, rfl⟩ := List.exists_cons_of_ne_nil (List.ne_nil_of_mem hcase)
  obtain ⟨selected, others, hselected⟩ := List.exists_cons_of_ne_nil (List.ne_nil_of_mem hmem)
  have hnone : selection ≠ [] := List.ne_nil_of_mem hid
  simp only [Config.cases, h, select, if_neg hnone, hselected]

/-- What a creating run leaves in the fixture of a case is the output of the case. -/
theorem Created.fileText_fixture (hcreated : Created p fs cases after) (hlinks : fs.LinkFree)
    (h : discover fs root extension = .ok all) (hcases : ∀ case ∈ cases, case ∈ all)
    (hcase : case ∈ cases) (hsource : fs.fileText case.source = .ok source) :
    after.fileText case.fixture = .ok (freshOutput p fs case) := by
  have hafter := hcreated.fileText_source hlinks h hcases (hcases case hcase) hsource
  rw [(hcreated.recorded hlinks h hcases case hcase).fixture,
    freshOutput_congr (hafter.trans hsource.symm)]

end

namespace Harness

variable {config : Config} {differ : Differ} {selection : List Text}
  {world fullLeft : World p.State}
  {full : Summary}

/-- What becomes of a case does not depend on the selection. -/
theorem settles_selection_iff :
    (Harness.mk { config with selection := selection } p differ).Settles fs case result ↔
      (Harness.mk config p differ).Settles fs case result := by
  unfold Settles settled
  cases caseOutput p fs p.initial case with
  | error error => rfl
  | ok output => rfl

/-- A selective run is the restriction of the full run. If the full run goes through, so does a run
with a selection that some case matches. Every case has one result. Either run counts these results,
reports the blocks for them, and uses one instance for each of its cases, which are all cases or the
selected ones, each of them once and in their order. If fixtures are created, those of the selected
cases get the same text from both runs. Every other file is as it was after the selective run. -/
theorem run_selection (hlinks : world.files.LinkFree)
    (hdiscover : discover world.files config.root config.extension = .ok all)
    (hmatch : ∃ case ∈ all, case.id ∈ selection)
    (hfull : (Harness.mk { config with selection := [] } p differ).run labelRoot world =
      .ok full fullLeft) :
    ∃ results summary left,
      (Harness.mk { config with selection := selection } p differ).run labelRoot world =
        .ok summary left ∧
      (∀ case ∈ all, (Harness.mk config p differ).Settles world.files case (results case)) ∧
      Ran p labelRoot world results all full fullLeft ∧
      (all.filter (·.id ∈ selection)).Nodup ∧
      Ran p labelRoot world results (all.filter (·.id ∈ selection)) summary left ∧
      (config.mode = .create → ∀ case ∈ all.filter (·.id ∈ selection), ∃ actual,
        left.files.fileText case.fixture = .ok actual ∧
          fullLeft.files.fileText case.fixture = .ok actual) ∧
      (∀ location, (config.mode = .create → ∀ case ∈ all.filter (·.id ∈ selection), ∀ place,
        world.files.locate true case.fixture = .ok place → place.location ≠ location) →
          left.files.lookup location = world.files.lookup location) := by
  have hall : (Harness.mk { config with selection := [] } p differ).cases world.files =
      .ok all := by
    obtain ⟨case, hcase, -⟩ := hmatch
    exact Config.cases_of_discover rfl (List.ne_nil_of_mem hcase) hdiscover
  have hselected : (Harness.mk { config with selection := selection } p differ).cases world.files =
      .ok (all.filter (·.id ∈ selection)) := cases_of_selection hdiscover hmatch
  have hsub : ∀ case ∈ all.filter (·.id ∈ selection), case ∈ all := fun case hmem =>
    (List.mem_filter.mp hmem).1
  obtain ⟨hsettles, hran⟩ := settles_of_run hlinks hdiscover (fun _ hmem => hmem) hall hfull
  have hnonempty : Nonempty CaseResult := by
    obtain ⟨case, hcase, -⟩ := hmatch
    obtain ⟨result, -⟩ := hsettles case hcase
    exact ⟨result⟩
  choose! results hresults using hsettles
  have hranAll := hran results hresults
  simp only [settles_selection_iff] at hresults
  -- There is room for the report on some cases if there is room for that on all.
  have hreport := hranAll.written
  rw [hranAll.counted] at hreport
  obtain ⟨sink, hsink⟩ :=
    Sink.exists_write_of_size_le hreport (Report.size_report_le List.filter_sublist)
  obtain ⟨left, hrun, hranSelected⟩ := run_of_settles hlinks hdiscover hsub hselected
    (fun case hmem => settles_selection_iff.mpr (hresults case (hsub case hmem))) hsink
  refine ⟨results, _, left, hrun, hresults, hranAll, (nodup_of_discover hdiscover).filter _,
    hranSelected, ?_, fun location => lookup_of_run hlinks hdiscover hsub hselected hrun⟩
  intro hmode case hcase
  obtain ⟨source, hsource⟩ := (hresults case (hsub case hcase)).exists_source
  exact ⟨freshOutput p world.files case,
    (created_of_cases hmode hselected hrun).fileText_fixture hlinks hdiscover hsub hcase hsource,
    (created_of_cases hmode hall hfull).fileText_fixture hlinks hdiscover (fun _ hmem => hmem)
      (hsub case hcase) hsource⟩

/-- A pipeline whose instances count what they parse. -/
def counting : Pipeline where
  State := Nat
  Program := Text
  initial := 0
  parse := fun parses source _ => (⟨source, []⟩, parses + 1)
  serialize := fun _ program => program

/-- The configuration of a creating run over the directory with two sources. -/
def creating : Config := { echoing.config with mode := .create }

/-- The second of two cases, asked for twice beside one that is not there. -/
theorem run_selection_twoSources :
    ∃ summary left, (Harness.mk { creating with
        selection := ["z".toList, "b".toList, "b".toList] } counting echoing.differ).run "t".toList
          ⟨twoSources, {}, []⟩ = .ok summary left ∧
      summary.total = 1 ∧ left.instances = [(1 : Nat)] := by
  have hmatch : ∃ case ∈ [caseOf "a", caseOf "b"],
      case.id ∈ ["z".toList, "b".toList, "b".toList] := ⟨caseOf "b", by decide, by decide⟩
  have hselected : [caseOf "a", caseOf "b"].filter
      (fun case => case.id ∈ ["z".toList, "b".toList, "b".toList]) = [caseOf "b"] := by
    decide
  obtain ⟨after, hcreated⟩ := exists_created_twoSources counting
  let harness : Harness := .mk { creating with selection := [] } counting echoing.differ
  have hcases : harness.cases twoSources = .ok [caseOf "a", caseOf "b"] :=
    Config.cases_of_discover rfl (List.cons_ne_nil _ _) discover_twoSources
  have hroom : (World.mk twoSources {} [] : World harness.pipeline.State).sink.room = none := rfl
  obtain ⟨full, fullLeft, hfull, -⟩ := run_of_created "t".toList rfl hroom hcases hcreated
  obtain ⟨results, summary, left, hrun, -, -, -, hran, -⟩ :=
    run_selection linkFree_twoSources discover_twoSources hmatch hfull
  rw [hselected] at hran
  obtain ⟨hcounted, -, states, hused, hstates⟩ := hran
  refine ⟨summary, left, hrun, by rw [hcounted, Summary.ofResults, Summary.foldl_record]; rfl, ?_⟩
  cases hstates with
  | cons hparses hnone =>
    cases hnone
    obtain ⟨source, -, rfl⟩ := hparses
    exact hused

end Harness

end GoldenFiles
