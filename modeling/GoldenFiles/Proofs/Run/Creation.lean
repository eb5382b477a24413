import GoldenFiles.Proofs.Run.Verification

/-!
# Creating runs

A creating run that goes through has made the output of every case its fixture. In a file system
without links each fixture belongs to one case and none is a source, so what has been recorded stays
recorded until the run ends: a verifying run then finds nothing amiss, and another creating run
nothing to change.

## Main definitions

* `Created` — cases whose outputs have become their fixtures, one after the other
* `Recorded` — the fixture of a case holds its output

## Main results

* `Harness.created_of_run`, `Harness.run_of_created` — a creating run that goes through
* `Created.kept`, `Created.recorded` — what has been recorded stays recorded
* `Harness.create_then_verify` — verifying, or creating again, after a creating run
-/

namespace GoldenFiles

variable {p : Pipeline} {fs after : FileSystem} {root : Path} {extension : Text}
  {cases all : List TestCase} {case other : TestCase} {content : Bytes} {source : Text}

/-! ### Fixtures that record outputs -/

/-- Cases whose outputs become their fixtures, one after the other. -/
inductive Created (p : Pipeline) : FileSystem → List TestCase → FileSystem → Prop
  | nil {fs : FileSystem} : Created p fs [] fs
  | cons {fs between after : FileSystem} {case : TestCase} {rest : List TestCase} {source : Text}
    (hsource : fs.fileText case.source = .ok source)
    (hwrite : fs.write case.fixture (Utf8.encode (freshOutput p fs case)) = .ok between)
    (hrest : Created p between rest after) : Created p fs (case :: rest) after

/-- The source of a case can be read, and its fixture holds its output. -/
structure Recorded (p : Pipeline) (fs : FileSystem) (case : TestCase) : Prop where
  source : ∃ source, fs.fileText case.source = .ok source
  fixture : fs.fileText case.fixture = .ok (freshOutput p fs case)

theorem Recorded.readable (h : Recorded p fs case) : case.Readable fs :=
  ⟨h.source, .inr ⟨_, h.fixture⟩⟩

theorem Recorded.not_regressed (h : Recorded p fs case) : regressed p fs case = false := by
  simp [regressed, h.fixture]

/-! ### A single fixture -/

/-- Sources are no fixtures, and are read alike before and after a fixture is written. -/
theorem fileText_source_write_iff (hlinks : fs.LinkFree) (h : discover fs root extension = .ok all)
    (hcase : case ∈ all) (hother : other ∈ all)
    (hwrite : fs.write case.fixture content = .ok after) :
    after.fileText other.source = .ok source ↔ fs.fileText other.source = .ok source := by
  obtain ⟨place, hplace, hdir, rfl⟩ := FileSystem.exists_of_write_eq_ok hwrite
  have hother : ∀ at_, fs.locate true other.source = .ok at_ → at_.location ≠ place.location :=
    fun at_ hat => fixture_ne_source hlinks h hcase hother hplace hat
  exact ⟨fun hafter => FileSystem.fileText_of_put_of_ne (hlinks.takes hdir) hafter hother,
    fun hbefore => FileSystem.fileText_put_of_ne (hlinks.takes hdir) hbefore hother⟩

theorem fileText_source_write (hlinks : fs.LinkFree) (h : discover fs root extension = .ok all)
    (hcase : case ∈ all) (hother : other ∈ all)
    (hwrite : fs.write case.fixture content = .ok after)
    (hsource : fs.fileText other.source = .ok source) :
    after.fileText other.source = .ok source :=
  (fileText_source_write_iff hlinks h hcase hother hwrite).mpr hsource

/-- A fixture that has been written with the output of its case records it. -/
theorem recorded_write (hlinks : fs.LinkFree) (h : discover fs root extension = .ok all)
    (hcase : case ∈ all) (hsource : fs.fileText case.source = .ok source)
    (hwrite : fs.write case.fixture (Utf8.encode (freshOutput p fs case)) = .ok after) :
    Recorded p after case := by
  have hafter := fileText_source_write hlinks h hcase hcase hwrite hsource
  refine ⟨⟨source, hafter⟩, ?_⟩
  rw [freshOutput_congr (hafter.trans hsource.symm)]
  obtain ⟨place, hplace, hdir, rfl⟩ := FileSystem.exists_of_write_eq_ok hwrite
  exact FileSystem.fileText_put_self (hlinks.takes hdir) hplace _

/-- What has been recorded stays recorded when another fixture is written, or the same again. -/
theorem Recorded.write (hrecorded : Recorded p fs other) (hlinks : fs.LinkFree)
    (h : discover fs root extension = .ok all) (hcase : case ∈ all) (hother : other ∈ all)
    (hsource : fs.fileText case.source = .ok source)
    (hwrite : fs.write case.fixture (Utf8.encode (freshOutput p fs case)) = .ok after) :
    Recorded p after other := by
  by_cases hsame : case = other
  · exact hsame ▸ recorded_write hlinks h hcase hsource hwrite
  · obtain ⟨otherSource, hotherSource⟩ := hrecorded.source
    have hafter := fileText_source_write hlinks h hcase hother hwrite hotherSource
    refine ⟨⟨otherSource, hafter⟩, ?_⟩
    rw [freshOutput_congr (hafter.trans hotherSource.symm)]
    obtain ⟨place, hplace, hdir, rfl⟩ := FileSystem.exists_of_write_eq_ok hwrite
    exact FileSystem.fileText_put_of_ne (hlinks.takes hdir) hrecorded.fixture fun at_ hat heq =>
      hsame (eq_of_fixture_eq hlinks h hcase hother hplace hat heq.symm)

/-! ### All fixtures -/

namespace Created

/-- Writing fixtures makes no links, leaves the cases as they are, and keeps what has been recorded.
-/
theorem kept (hcreated : Created p fs cases after) (hlinks : fs.LinkFree)
    (h : discover fs root extension = .ok all) (hcases : ∀ case ∈ cases, case ∈ all) :
    after.LinkFree ∧ discover after root extension = .ok all ∧
      ∀ other ∈ all, Recorded p fs other → Recorded p after other := by
  induction hcreated with
  | nil => exact ⟨hlinks, h, fun _ _ hrecorded => hrecorded⟩
  | cons hsource hwrite hrest ih =>
    obtain ⟨hcase, hcasesRest⟩ := List.forall_mem_cons.mp hcases
    have hlinksBetween := hlinks.write hwrite
    have hbetween := discover_write_fixture h hcase hwrite
    obtain ⟨hlinksAfter, hafter, hkept⟩ := ih hlinksBetween hbetween hcasesRest
    -- All of the cases are kept, also those whose turn has been before or never comes.
    exact ⟨hlinksAfter, hafter, fun other hother hrecorded =>
      hkept other hother (hrecorded.write hlinks h hcase hother hsource hwrite)⟩

/-- Sources are read in the end as they were at first. -/
theorem fileText_source (hcreated : Created p fs cases after) (hlinks : fs.LinkFree)
    (h : discover fs root extension = .ok all) (hcases : ∀ case ∈ cases, case ∈ all)
    (hother : other ∈ all) (hsource : fs.fileText other.source = .ok source) :
    after.fileText other.source = .ok source := by
  induction hcreated with
  | nil => exact hsource
  | cons _ hwrite _ ih =>
    obtain ⟨hcase, hcasesRest⟩ := List.forall_mem_cons.mp hcases
    have hlinksBetween := hlinks.write hwrite
    have hbetween := discover_write_fixture h hcase hwrite
    exact ih hlinksBetween hbetween hcasesRest
      (fileText_source_write hlinks h hcase hother hwrite hsource)

/-- Every case is recorded in the end. -/
theorem recorded (hcreated : Created p fs cases after) (hlinks : fs.LinkFree)
    (h : discover fs root extension = .ok all) (hcases : ∀ case ∈ cases, case ∈ all) :
    ∀ case ∈ cases, Recorded p after case := by
  induction hcreated with
  | nil => exact List.forall_mem_nil _
  | cons hsource hwrite hrest ih =>
    obtain ⟨hcase, hcasesRest⟩ := List.forall_mem_cons.mp hcases
    have hlinksBetween := hlinks.write hwrite
    have hbetween := discover_write_fixture h hcase hwrite
    obtain ⟨-, -, hkept⟩ := hrest.kept hlinksBetween hbetween hcasesRest
    refine List.forall_mem_cons.mpr ⟨?_, ih hlinksBetween hbetween hcasesRest⟩
    exact hkept _ hcase (recorded_write hlinks h hcase hsource hwrite)

end Created

/-! ### Creating runs -/

namespace Harness

variable {harness : Harness} {world left : World harness.pipeline.State} {result : CaseResult}
  {files : FileSystem} {labelRoot : Text}
  {summary total : Summary}

/-- A case is created if its source can be read and its fixture written. -/
theorem settled_create_iff (hmode : harness.config.mode = .create) :
    harness.settled fs case = .ok (result, files) ↔
      (∃ source, fs.fileText case.source = .ok source) ∧
        result = ⟨case.id, .create, freshOutput harness.pipeline fs case, .created⟩ ∧
        fs.write case.fixture (Utf8.encode (freshOutput harness.pipeline fs case)) = .ok files := by
  unfold settled
  cases hsource : fs.fileText case.source with
  | error fault => simp [caseOutput, hsource]
  | ok source =>
    rw [caseOutput_of_source hsource]
    simp only [hmode, settle, createFixture]
    cases fs.write case.fixture (Utf8.encode (freshOutput harness.pipeline fs case)) with
    | error fault => simp
    | ok written => simp [eq_comm]

theorem settled_create (hmode : harness.config.mode = .create)
    (h : harness.settled fs case = .ok (result, files)) :
    (∃ source, fs.fileText case.source = .ok source) ∧ result.outcome = .created ∧
      fs.write case.fixture (Utf8.encode (freshOutput harness.pipeline fs case)) = .ok files := by
  obtain ⟨hsource, rfl, hwrite⟩ := (settled_create_iff hmode).mp h
  exact ⟨hsource, rfl, hwrite⟩

/-- Cases that all end in a creating run have been created. -/
theorem created_of_runCases (hmode : harness.config.mode = .create)
    (h : harness.runCases labelRoot cases summary world = .ok total left) :
    Created harness.pipeline world.files cases left.files ∧
      total = { summary with
        total := summary.total + cases.length
        created := summary.created + cases.length } := by
  induction cases generalizing world summary with
  | nil =>
    cases h
    exact ⟨.nil, rfl⟩
  | cons case rest ih =>
    obtain ⟨result, between, hcase, hrest⟩ := RunM.exists_of_bind_eq_ok h
    obtain ⟨⟨source, hsource⟩, hcreated, hwrite⟩ :=
      settled_create hmode (settled_of_reportCase hcase)
    obtain ⟨hall, rfl⟩ := ih hrest
    refine ⟨.cons hsource hwrite hall, ?_⟩
    simp only [Summary.record, hcreated, List.length_cons, Summary.mk.injEq, and_true]
    omega

/-- A creating run that goes through has created all its cases. -/
theorem created_of_run (hmode : harness.config.mode = .create)
    (h : harness.run labelRoot world = .ok total left) :
    ∃ cases, harness.cases world.files = .ok cases ∧
      Created harness.pipeline world.files cases left.files ∧
      total = { total := cases.length, created := cases.length } := by
  cases hcases : harness.cases world.files with
  | error error =>
    rw [run_of_error hcases] at h
    cases h
  | ok cases =>
    rw [run_of_cases hcases] at h
    obtain ⟨summary, between, hrun, h⟩ := RunM.exists_of_bind_eq_ok h
    obtain ⟨_, reported, hreport, h⟩ := RunM.exists_of_bind_eq_ok h
    obtain ⟨hcreated, hsummary⟩ := created_of_runCases hmode hrun
    have hfiles := RunM.files_of_report hreport
    cases h
    exact ⟨cases, rfl, hfiles ▸ hcreated, by simpa using hsummary⟩

/-- Cases that can be created all end in a creating run, if the sink has room for the report. -/
theorem runCases_of_created (hmode : harness.config.mode = .create)
    (hroom : world.sink.room = none) (h : Created harness.pipeline world.files cases after)
    (labelRoot : Text) (summary : Summary) :
    ∃ total left, harness.runCases labelRoot cases summary world = .ok total left ∧
      left.files = after ∧ left.sink.room = none := by
  induction cases generalizing world summary with
  | nil =>
    cases h
    exact ⟨summary, world, rfl, rfl, hroom⟩
  | cons case rest ih =>
    obtain - | @⟨_, between, _, _, _, source, hsource, hwrite, hrest⟩ := h
    have hsettled := (settled_create_iff hmode).mpr ⟨⟨source, hsource⟩, rfl, hwrite⟩
    let next : World harness.pipeline.State := { harness.withInstance world case with
      files := between
      sink := world.sink.add (Report.block labelRoot case .created) }
    have hcase : harness.reportCase labelRoot case world = .ok _ next :=
      reportCase_of_settled hroom hsettled
    have hnext : next.sink.room = none := hroom
    obtain ⟨total, left, hrun, hleft⟩ := ih hnext hrest _
    exact ⟨total, left, (RunM.bind_of_ok hcase).trans hrun, hleft⟩

/-- A creating run over cases that can be created goes through. -/
theorem run_of_created (labelRoot : Text) (hmode : harness.config.mode = .create)
    (hroom : world.sink.room = none) (hcases : harness.cases world.files = .ok cases)
    (h : Created harness.pipeline world.files cases after) :
    ∃ summary left, harness.run labelRoot world = .ok summary left ∧ left.files = after := by
  obtain ⟨summary, left, hrun, hfiles, hleft⟩ := runCases_of_created hmode hroom h labelRoot {}
  have hbanner : RunM.report (Report.banner summary) left =
      .ok () { left with sink := left.sink.add (Report.banner summary) } :=
    RunM.report_of_unlimited hleft
  refine ⟨summary, { left with sink := left.sink.add (Report.banner summary) }, ?_, hfiles⟩
  rw [run_of_cases hcases]
  exact (RunM.bind_of_ok hrun).trans (RunM.bind_of_ok hbanner)

end Harness

/-! ### After a creating run -/

theorem sublist_of_select {selection : List Text} (h : select all selection = .ok cases) :
    cases.Sublist all := by
  unfold select at h
  by_cases hselection : selection = []
  · rw [if_pos hselection] at h
    cases h
    exact .refl _
  · rw [if_neg hselection] at h
    cases hfilter : all.filter (·.id ∈ selection) with
    | nil => simp [hfilter] at h
    | cons first rest =>
      simp only [hfilter, Except.ok.injEq] at h
      rw [← h, ← hfilter]
      exact List.filter_sublist

/-- The cases that a configuration asks for are among those that discovery finds, in their order. -/
theorem exists_sublist_of_cases {config : Config} (h : config.cases fs = .ok cases) :
    ∃ all, discover fs config.root config.extension = .ok all ∧ cases.Sublist all := by
  unfold Config.cases at h
  cases hdiscover : discover fs config.root config.extension with
  | error error => simp [hdiscover] at h
  | ok all =>
    cases all with
    | nil => simp [hdiscover] at h
    | cons first rest =>
      simp only [hdiscover] at h
      exact ⟨first :: rest, rfl, sublist_of_select h⟩

theorem exists_discover_of_cases {config : Config} (h : config.cases fs = .ok cases) :
    ∃ all, discover fs config.root config.extension = .ok all ∧ (∀ case ∈ cases, case ∈ all) := by
  obtain ⟨all, hdiscover, hsub⟩ := exists_sublist_of_cases h
  exact ⟨all, hdiscover, fun _ => hsub.mem⟩

/-- The cases that a configuration asks for depend on what discovery finds. -/
theorem cases_congr {config other : Config} (hroot : other.root = config.root)
    (hextension : other.extension = config.extension)
    (hselection : other.selection = config.selection)
    (h : discover after config.root config.extension = discover fs config.root config.extension) :
    other.cases after = config.cases fs := by
  unfold Config.cases
  rw [hroot, hextension, hselection, h]

namespace Harness

section

variable {harness : Harness} {context : Nat} {world : World harness.pipeline.State}

/-- A verifying run passes all cases that are recorded. -/
theorem run_verify_of_recorded (labelRoot : Text) (hmode : harness.config.mode = .verify)
    (hdiffer : harness.differ = Diff.lineDiffer context) (hroom : world.sink.room = none)
    (hcases : harness.cases world.files = .ok cases)
    (h : ∀ case ∈ cases, Recorded harness.pipeline world.files case) :
    ∃ left, harness.run labelRoot world =
        .ok { total := cases.length, passed := cases.length } left ∧
      left.files = world.files := by
  have hreadable : ∀ case ∈ cases, case.Readable world.files := fun case hmem =>
    (h case hmem).readable
  have hfailed : cases.countP (regressed harness.pipeline world.files) = 0 := by
    rw [List.countP_eq_zero]
    intro case hmem
    simp [(h case hmem).not_regressed]
  have hpassed : cases.countP (fun case => !regressed harness.pipeline world.files case) =
      cases.length := by
    rw [List.countP_eq_length]
    intro case hmem
    simp [(h case hmem).not_regressed]
  have hverdicts : verdicts harness.pipeline world.files cases =
      { total := cases.length, passed := cases.length } := by
    simp [verdicts, hfailed, hpassed]
  have hrun := run_of_readable labelRoot hmode hdiffer hroom hcases hreadable
  rw [hverdicts] at hrun
  exact ⟨_, hrun, rfl⟩

/-- A creating run over cases that are recorded leaves all files as they are, however it ends. -/
theorem files_create_of_recorded (labelRoot : Text) (hmode : harness.config.mode = .create)
    (hcases : harness.cases world.files = .ok cases)
    (h : ∀ case ∈ cases, Recorded harness.pipeline world.files case) :
    (RunM.after (harness.run labelRoot world)).files = world.files := by
  refine files_run (P := fun files => files = world.files) rfl ?_
  intro found hfound case hmem fs result files hfs hsettled
  rw [hcases] at hfound
  cases hfound
  subst hfs
  obtain ⟨-, -, hwrite⟩ := settled_create hmode hsettled
  exact FileSystem.write_of_fileText (h case hmem).fixture hwrite

end

variable {config : Config} {differ : Differ} {labelRoot : Text} {world made : World p.State}
  {first : Summary}

/-- A verifying run after a creating run passes every case that the creating run has created, and
another creating run leaves all files as they are. -/
theorem create_then_verify (hlinks : world.files.LinkFree)
    (hcreate : (Harness.mk { config with mode := .create } p differ).run labelRoot world =
      .ok first made) :
    first.created = first.total ∧
    (∀ (colour : ColourMode) (context : Nat) (label : Text) (checked : World p.State),
      checked.files = made.files → checked.sink.room = none →
        ∃ second left,
          (Harness.mk { config with mode := .verify, colour := colour } p
            (Diff.lineDiffer context)).run label checked = .ok second left ∧
          second.total = first.total ∧ second.passed = first.total ∧ second.failed = 0 ∧
          second.exitCode = 0 ∧ left.files = made.files) ∧
    (∀ (colour : ColourMode) (other : Differ) (label : Text) (again : World p.State),
      again.files = made.files →
        (RunM.after ((Harness.mk { config with mode := .create, colour := colour } p other).run
          label again)).files = made.files) := by
  obtain ⟨cases, hcases, hcreated, rfl⟩ := created_of_run rfl hcreate
  obtain ⟨all, hdiscover, hall⟩ := exists_discover_of_cases hcases
  obtain ⟨-, hafter, -⟩ := hcreated.kept hlinks hdiscover hall
  have hrecorded : ∀ case ∈ cases, Recorded p made.files case :=
    hcreated.recorded hlinks hdiscover hall
  have hsame : ∀ other : Config, other.root = config.root → other.extension = config.extension →
      other.selection = config.selection → other.cases made.files = .ok cases :=
    fun other hroot hextension hselection =>
      (cases_congr hroot hextension hselection (hafter.trans hdiscover.symm)).trans hcases
  refine ⟨rfl, ?_, ?_⟩
  · intro colour context label checked hfiles hroom
    have hchecked : (Harness.mk { config with mode := .verify, colour := colour } p
        (Diff.lineDiffer context)).cases checked.files = .ok cases := by
      rw [hfiles]
      exact hsame _ rfl rfl rfl
    rw [← hfiles] at hrecorded
    obtain ⟨left, hrun, hleft⟩ :=
      run_verify_of_recorded label rfl rfl hroom hchecked hrecorded
    exact ⟨_, left, hrun, rfl, rfl, rfl, rfl, hleft.trans hfiles⟩
  · intro colour other label again hfiles
    have hagain : (Harness.mk { config with mode := .create, colour := colour } p other).cases
        again.files = .ok cases := by
      rw [hfiles]
      exact hsame _ rfl rfl rfl
    rw [← hfiles] at hrecorded
    exact (files_create_of_recorded label rfl hagain hrecorded).trans hfiles

theorem linkFree_twoSources : twoSources.LinkFree := by
  intro location path h
  unfold FileSystem.lookup at h
  split at h
  · cases h
  · have hmem := mem_of_entryAt h
    have hkinds : ∀ entry ∈ twoSources.entries, ∀ path, entry.2 ≠ .link path := by
      have hentries : twoSources.entries.map (·.2) =
          [.directory, .file (Utf8.encode "one\n".toList), .file (Utf8.encode "two\n".toList)] :=
        rfl
      intro entry hentry path hlink
      have hkind := List.mem_map_of_mem (f := (·.2)) hentry
      rw [hentries, hlink] at hkind
      simp at hkind
    exact hkinds _ hmem path rfl

/-- Both sources can be made fixtures, whatever their outputs are. -/
theorem exists_created_twoSources (p : Pipeline) :
    ∃ after, Created p twoSources [caseOf "a", caseOf "b"] after := by
  let recorded (content : Bytes) : FileSystem :=
    twoSources.put (fixtureA.name :: directoryT) (.file content)
  have hsource : twoSources.fileText (caseOf "a").source = .ok "one\n".toList :=
    FileSystem.fileText_of_content (by cbv)
  have htarget : twoSources.writeTarget (caseOf "a").fixture =
      .ok (fixtureA.name :: directoryT) := by
    cbv
  have hother (content : Bytes) :
      (recorded content).fileText (caseOf "b").source = .ok "two\n".toList :=
    FileSystem.fileText_of_content (by cbv)
  have hotherTarget (content : Bytes) : (recorded content).writeTarget (caseOf "b").fixture =
      .ok (.ofText "b.fixture.s".toList :: directoryT) := by
    cbv
  exact ⟨_, .cons hsource (FileSystem.write_of_writeTarget htarget _)
    (.cons (hother _) (FileSystem.write_of_writeTarget (hotherTarget _) _) .nil)⟩

/-- Both sources become fixtures, and pass. -/
theorem create_then_verify_twoSources :
    ∃ first made second left,
      (Harness.mk { echoing.config with mode := .create } echo echoing.differ).run "t".toList
        ⟨twoSources, {}, []⟩ = .ok first made ∧
      (Harness.mk { echoing.config with mode := .verify, colour := .auto } echo
        (Diff.lineDiffer 0)).run "t".toList ⟨made.files, {}, []⟩ = .ok second left ∧
      second.passed = first.created := by
  obtain ⟨after, hafter⟩ := exists_created_twoSources echo
  let harness : Harness := .mk { echoing.config with mode := .create } echo echoing.differ
  have hcases : harness.cases twoSources = .ok [caseOf "a", caseOf "b"] :=
    Config.cases_of_discover rfl (List.cons_ne_nil _ _) discover_twoSources
  have hroom : (World.mk twoSources {} [] : World harness.pipeline.State).sink.room = none := rfl
  obtain ⟨first, made, hcreate, -⟩ := run_of_created "t".toList rfl hroom hcases hafter
  obtain ⟨hcreated, hverify, -⟩ := create_then_verify linkFree_twoSources hcreate
  obtain ⟨second, left, hrun, -, hpassed, -⟩ :=
    hverify .auto 0 "t".toList ⟨made.files, {}, []⟩ rfl rfl
  exact ⟨first, made, second, left, hcreate, hrun, hpassed.trans hcreated.symm⟩

end Harness

end GoldenFiles
