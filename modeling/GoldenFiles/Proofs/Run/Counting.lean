import GoldenFiles.Proofs.Discovery.Labels
import GoldenFiles.Proofs.Report.Lines
import GoldenFiles.Proofs.Run.Selection

/-!
# Reports that can be counted

What a run tells of its cases can be counted in the lines of its report, although fixtures and
outputs are shown between these lines. Every line that shows them begins with a mark of its own, and
the line that tells of a missing fixture does so with a letter; none of them is broken, since lines
of texts are not and names are supposed not to be.

## Main results

* `lineFeed_notMem_fixture`, `lineFeed_notMem_fixtureName` — what is told of a fixture is not broken
* `Harness.isDetail_of_settled` — the outcome of a case shows nothing but details
* `Harness.exists_ended_of_runCases` — cases that have ended in turn, and their blocks
* `Harness.run_tells` — a whole run and the lines of its report
-/

namespace GoldenFiles

variable {fs : FileSystem} {root path : Path} {extension labelRoot : Text} {cases : List TestCase}
  {case : TestCase}

/-! ### Names that are not broken -/

theorem Path.lineFeed_mem_text_iff : '\n' ∈ path.text ↔ 10 ∈ path.bytes :=
  Utf8.mem_lenient_iff (b := 10) (by decide)

/-- The last name of a path is a segment of it. -/
theorem Path.mem_segments_of_lastName? {name : Bytes} (h : path.lastName? = some name) :
    name ∈ segments path.bytes := by
  unfold lastName? at h
  cases hlast : (withoutIdleEnd (segments path.bytes)).getLast? with
  | none => simp [hlast] at h
  | some segment =>
    have hmem := List.mem_of_getLast? hlast
    rw [withoutIdleEnd, List.mem_reverse] at hmem
    have hsegment := List.mem_reverse.mp ((List.dropWhile_sublist _).mem hmem)
    rw [hlast] at h
    dsimp only at h
    split at h
    · cases h
    · cases h
      exact hsegment

theorem Path.lineFeed_notMem_label (h : '\n' ∉ path.text) : '\n' ∉ path.label := by
  unfold label
  split
  · next name hname =>
    rw [lineFeed_mem_text_iff, ← intercalate_segments path.bytes,
      mem_intercalate_iff (by decide)] at h
    exact fun hmem => h ⟨name, mem_segments_of_lastName? hname,
      (Utf8.mem_lenient_iff (b := 10) (by decide)).mp hmem⟩
  · exact h

namespace TestCase

/-- The path of a fixture is not broken if neither the test root is nor the file name of the case.
-/
theorem lineFeed_notMem_fixture (h : discover fs root extension = .ok cases) (hcase : case ∈ cases)
    (hroot : '\n' ∉ root.text) (hname : '\n' ∉ case.fileName) : '\n' ∉ case.fixture.text := by
  obtain ⟨file, hne, hdirectory, hfound⟩ := exists_file_of_discover h hcase
  obtain ⟨stem, hstems⟩ := exists_stems hfound
  have hnames : ∀ name ∈ file.row, 10 ∉ name.bytes := fun name hmem hbreak =>
    hname (((named_of_ofFile? hdirectory hfound).mem_fileName_iff (b := 10) (by decide)
      (by decide)).mpr ⟨name, hmem, hbreak⟩)
  rw [FoundFile.row, List.forall_mem_append, List.forall_mem_singleton] at hnames
  rw [Path.lineFeed_mem_text_iff, Path.mem_bytes_iff (by decide) (by decide)] at hroot ⊢
  rw [hstems.parts_fixture hne hdirectory]
  rintro ⟨part, hpart, hbreak⟩
  simp only [List.mem_append, List.mem_map, List.mem_singleton] at hpart
  rcases hpart with hpart | ⟨name, hmem, rfl⟩ | rfl
  · exact hroot ⟨part, hpart, hbreak⟩
  · exact hnames.1 name hmem hbreak
  · exact hstems.not_mem_fixtureText (by decide) (by decide) (by decide) hnames.2 hbreak

/-- The name of a fixture, as it is compared, is not broken if the file name of the case is not. -/
theorem lineFeed_notMem_fixtureName (h : case.fileName = case.id ++ '.' :: extension)
    (hname : '\n' ∉ case.fileName) : '\n' ∉ case.fixtureName := by
  obtain ⟨front, back, hextension, hback⟩ :=
    Text.exists_last_of_mem (List.mem_cons_self (a := '.') (l := extension))
  rw [fixtureName_of_append front h hextension hback]
  rw [h, hextension] at hname
  have hmark : '\n' ∉ fixtureInfix := by decide
  simp only [List.mem_append, List.mem_cons] at hname ⊢
  tauto

end TestCase

/-! ### Details of outcomes -/

/-- A comparison with the line differ shows nothing but details. -/
theorem isDetail_verdict {p : Pipeline} {context : Nat}
    (hlabel : '\n' ∉ fixtureLabel labelRoot case)
    (hfixture : '\n' ∉ case.fixture.text) :
    ∀ line ∈ Report.detailLines (verdict context labelRoot p fs case), Report.IsDetail line := by
  unfold verdict
  cases fs.fileText case.fixture with
  | error fault => exact Report.isDetail_missing hfixture
  | ok expected =>
    dsimp only
    split
    · exact List.forall_mem_nil _
    · exact fun line hline => Report.isDetail_of_mem_consoleLines hlabel hline

namespace Harness

variable {harness : Harness} {context : Nat} {world left : World harness.pipeline.State}
  {summary total : Summary} {result : CaseResult}

theorem isDetail_of_settled (hdiffer : harness.differ = Diff.lineDiffer context)
    (hlabel : '\n' ∉ fixtureLabel harness.config.rootLabel case)
    (hfixture : '\n' ∉ case.fixture.text)
    (h : harness.Settles fs case result) :
    ∀ line ∈ Report.detailLines result.outcome, Report.IsDetail line := by
  obtain ⟨files, h⟩ := h
  cases hmode : harness.config.mode with
  | create =>
    obtain ⟨-, hcreated, -⟩ := settled_create hmode h
    rw [hcreated]
    exact List.forall_mem_nil _
  | verify =>
    rcases case.readable_or_offends fs with hreadable | ⟨error, hoffends⟩
    · rw [settled_of_readable hmode hdiffer hreadable] at h
      cases h
      exact isDetail_verdict hlabel hfixture
    · rw [settled_of_offends hmode hoffends] at h
      cases h

/-! ### Cases in turn -/

/-- Cases that have all ended have done so with results, which are counted, and for which the blocks
have been written. -/
theorem exists_ended_of_runCases
    (hrun : harness.runCases labelRoot cases summary world = .ok total left) :
    ∃ ended : List (TestCase × CaseResult), ended.map Prod.fst = cases ∧
      (∀ e ∈ ended, ∃ fs, harness.Settles fs e.1 e.2) ∧
      total = (ended.map Prod.snd).foldl .record summary ∧
      world.sink.write (ended.flatMap fun e => Report.block labelRoot e.1 e.2.outcome) =
        (left.sink, none) := by
  induction cases generalizing world summary with
  | nil =>
    cases hrun
    exact ⟨[], rfl, List.forall_mem_nil _, rfl, Sink.write_nil⟩
  | cons case rest ih =>
    obtain ⟨result, between, hcase, hrest⟩ := RunM.exists_of_bind_eq_ok hrun
    obtain ⟨ended, rfl, hsettles, rfl, hblocks⟩ := ih hrest
    rw [Sink.write_write (write_block_of_reportCase hcase)] at hblocks
    refine ⟨(case, result) :: ended, rfl, List.forall_mem_cons.mpr ⟨?_, hsettles⟩, rfl, hblocks⟩
    exact ⟨_, _, settled_of_reportCase hcase⟩

/-! ### Whole runs -/

theorem exists_ended_of_run (hrun : harness.run labelRoot world = .ok summary left) :
    ∃ ended : List (TestCase × CaseResult), harness.cases world.files = .ok (ended.map Prod.fst) ∧
      (∀ e ∈ ended, ∃ fs, harness.Settles fs e.1 e.2) ∧
      summary = .ofResults (ended.map Prod.snd) ∧
      world.sink.write ((ended.flatMap fun e => Report.block labelRoot e.1 e.2.outcome) ++
        Report.banner summary) = (left.sink, none) := by
  cases hcases : harness.cases world.files with
  | error error =>
    rw [run_of_error hcases] at hrun
    cases hrun
  | ok cases =>
    rw [run_of_cases hcases] at hrun
    obtain ⟨total, between, hrunCases, hend⟩ := RunM.exists_of_bind_eq_ok hrun
    obtain ⟨_, reported, hreport, hend⟩ := RunM.exists_of_bind_eq_ok hend
    obtain ⟨ended, rfl, hsettles, htotal, hblocks⟩ := exists_ended_of_runCases hrunCases
    have hbanner := RunM.write_of_report hreport
    rw [Sink.write_write hblocks] at hbanner
    cases hend
    exact ⟨ended, rfl, hsettles, htotal, hbanner⟩

/-- The report of a run can be counted. A run that goes through with the line differ and a sink
without colours has written a row of ended lines, behind whatever had been written before. If
neither the label of the report is broken nor the test root nor the file name of a case, then among
these lines are as many headers as there are cases, in the order in which the cases are found, and
as many of each status as the summary says, whatever the fixtures and the outputs hold. The last
line tells whether the run has succeeded, and otherwise how many cases have failed. -/
theorem run_tells (hdiffer : harness.differ = Diff.lineDiffer context)
    (hplain : world.sink.coloured = false) (hlabel : '\n' ∉ labelRoot)
    (hroot : '\n' ∉ harness.config.root.text)
    (hnames : ∀ cases, harness.cases world.files = .ok cases → ∀ case ∈ cases, '\n' ∉ case.fileName)
    (hrun : harness.run labelRoot world = .ok summary left) :
    ∃ found cases output lines,
      discover world.files harness.config.root harness.config.extension = .ok found ∧
      cases.Sublist found ∧ harness.cases world.files = .ok cases ∧
      left.sink.written = world.sink.written ++ Utf8.encode output ∧
      Text.pieces output = lines ++ [[]] ∧
      Report.Tells labelRoot cases summary lines := by
  obtain ⟨ended, hcases, hsettles, rfl, hwrite⟩ := exists_ended_of_run hrun
  obtain ⟨found, hdiscover, hsub⟩ := exists_sublist_of_cases hcases
  have hcase : ∀ e ∈ ended, e.1 ∈ ended.map Prod.fst := fun e he => List.mem_map_of_mem he
  have hname : ∀ e ∈ ended, '\n' ∉ e.1.fileName := fun e he => hnames _ hcases e.1 (hcase e he)
  have hdetails : ∀ e ∈ ended, ∀ line ∈ Report.detailLines e.2.outcome, Report.IsDetail line := by
    intro e he
    obtain ⟨fs, he'⟩ := hsettles e he
    have hfound := hsub.subset (hcase e he)
    obtain ⟨names, hnamed⟩ := exists_named hdiscover hfound
    refine isDetail_of_settled hdiffer ?_
      (TestCase.lineFeed_notMem_fixture hdiscover hfound hroot (hname e he)) he'
    have hfixture := TestCase.lineFeed_notMem_fixtureName hnamed.id (hname e he)
    simp [fixtureLabel, Config.rootLabel, Path.lineFeed_notMem_label hroot, hfixture]
  have hlines := Report.hasLines_report labelRoot ended (.ofResults (ended.map Prod.snd))
  refine ⟨found, _, (Report.reportLines labelRoot ended (.ofResults (ended.map Prod.snd))).flatMap
    (· ++ ['\n']), _, hdiscover, hsub, hcases, ?_, ?_, Report.tells_reportLines hdetails⟩
  · rw [Sink.written_of_write hwrite, hplain, hlines]
  · exact Text.pieces_flatMap_lineFeed fun line =>
      Report.lineFeed_notMem_of_mem_reportLines hlabel hname hdetails

/-- The file for a fixture that consists of a header. -/
def fixtureG : FoundFile := ⟨.ofText "t".toList, [], .ofText "g.fixture.s".toList⟩

/-- The directory with one source that consists of a status, and that fixture. -/
def pretending : FileSystem :=
  ((FileSystem.empty.put directoryT .directory).put
    (.ofText "g.s".toList :: directoryT) (.file (Utf8.encode "diff OK\n".toList))).put
    (fixtureG.name :: directoryT) (.file (Utf8.encode "Testing t/g.s\n".toList))

theorem cases_pretending : echoing.cases pretending = .ok [caseOf "g"] := by
  have hnames : pretending.children directoryT = [fixtureG.name, .ofText "g.s".toList] :=
    FileSystem.children_eq_of_perm (by decide) (by decide)
  have hlocate : pretending.locate true (.ofText "t".toList) =
      .ok (.found directoryT maxLinks) := by
    cbv
  have hwalk := FileSystem.walk_of_children hlocate rfl hnames
    (List.forall_mem_cons.mpr ⟨.file rfl, List.forall_mem_singleton.mpr (.file rfl)⟩)
  have hdiscover : discover pretending (.ofText "t".toList) "s".toList = .ok [caseOf "g"] :=
    discover_eq_ok_iff.mpr ⟨_, hwalk, by decide +kernel⟩
  exact Config.cases_of_discover rfl (List.cons_ne_nil _ _) hdiscover

/-- A header and a status that are shown in a diff are not counted. -/
theorem run_tells_pretending :
    ∃ summary left output lines, echoing.run "t".toList ⟨pretending, {}, []⟩ = .ok summary left ∧
      left.sink.written = Utf8.encode output ∧ Text.pieces output = lines ++ [[]] ∧
      lines.filter ("Testing ".toList.isPrefixOf ·) = ["Testing t/g.s".toList] ∧
      lines.count "diff OK".toList = 0 ∧ lines.count "diff ERROR".toList = 1 ∧
      lines.getLast? = some "ERROR: 1 fixture tests failed".toList := by
  have hsource : pretending.fileText (caseOf "g").source = .ok "diff OK\n".toList :=
    FileSystem.fileText_of_content (by cbv)
  have hfixture : pretending.fileText (caseOf "g").fixture = .ok "Testing t/g.s\n".toList :=
    FileSystem.fileText_of_content (by cbv)
  have hreadable : ∀ case ∈ [caseOf "g"], case.Readable pretending :=
    List.forall_mem_singleton.mpr ⟨⟨_, hsource⟩, .inr ⟨_, hfixture⟩⟩
  have hroom : (World.mk pretending {} [] : World echoing.pipeline.State).sink.room = none := rfl
  obtain ⟨summary, left, hrun, -, -, hfailed, hpassed, -⟩ :=
    (run_verify "t".toList rfl rfl hroom cases_pretending).1 hreadable
  have hfails : regressed echo pretending (caseOf "g") = true := by
    simp only [regressed, freshOutput, caseOutput, hsource, hfixture]
    decide
  have hone : summary.failed = 1 := by
    rw [hfailed]
    exact List.countP_cons_of_pos hfails
  have hnames :
      ∀ cases, echoing.cases pretending = .ok cases → ∀ case ∈ cases, '\n' ∉ case.fileName := by
    intro cases hcases
    rw [cases_pretending] at hcases
    cases hcases
    decide
  have hroot : '\n' ∉ echoing.config.root.text := mt Path.lineFeed_mem_text_iff.mp (by decide)
  obtain ⟨found, cases, output, lines, -, -, hcases, hwritten, hpieces, htells⟩ :=
    run_tells rfl rfl (by decide) hroot hnames hrun
  rw [cases_pretending] at hcases
  cases hcases
  refine ⟨summary, left, output, lines, hrun, hwritten, hpieces, htells.headers, ?_, ?_, ?_⟩
  · rw [htells.passed, hpassed, hone]
    rfl
  · rw [htells.failed, hone]
  · have hexit : summary.exitCode ≠ 0 := by
      rw [Ne, Summary.exitCode_eq_zero_iff, hone]
      decide
    rw [htells.failure hexit, hone]
    rfl

end Harness

end GoldenFiles
