import GoldenFiles.Proofs.FileSystem.Entries
import GoldenFiles.Proofs.Run.Creation
import Mathlib.Tactic.ByContra

/-!
# Baselines behind links

Cases are told apart by their paths, and links are followed. A source that is reached by two paths,
by one of them through a link to its directory, makes two cases with one fixture. Apart from that,
fixtures of different cases are different files unless one of them is a link itself. A creating run
leaves in every fixture what has been written to it last, so that a case keeps its own output unless
a later one shares its fixture.

## Main results

* `sameEntry_of_sameFile` — what it takes for two fixtures to be one file
* `Created.fileText` — what a fixture holds is kept until it is written again
* `Harness.baselines_of_run` — distinct fixtures, and what a creating run leaves in them
-/

namespace GoldenFiles

variable {p : Pipeline} {fs after : FileSystem} {root : Path} {extension stem : Text}
  {cases all : List TestCase} {case other : TestCase} {visit : Visit} {name : Name}
  {place at_ : Place}

/-! ### Entries of sources and fixtures -/

theorem exists_visit_of_discover (h : discover fs root extension = .ok all) (hcase : case ∈ all) :
    ∃ visit name stem, Visit.Comes fs root visit ∧ case.Stems extension (visit.file name) stem := by
  obtain ⟨files, hwalk, rfl⟩ := discover_eq_ok_iff.mp h
  obtain ⟨file, hfile, hfound⟩ := List.mem_filterMap.mp hcase
  obtain ⟨visit, hcomes, -, hvisit⟩ := FileSystem.exists_visit_of_walk hwalk file hfile
  obtain ⟨stem, hstems⟩ := TestCase.exists_stems hfound
  exact ⟨visit, file.name, stem, hcomes, hvisit ▸ hstems⟩

namespace TestCase.Stems

/-- The source of a case names its entry in the directory where it has been found. -/
theorem names_source (h : case.Stems extension (visit.file name) stem)
    (hvisit : visit.Comes fs root) :
    fs.Names case.source (name :: visit.location) := by
  rw [h.source]
  exact hvisit.reaches.names_join hvisit.isDirectory name.isName.2.2.2.1
    (Visit.ofSegment_bytes name)

/-- The fixture of a case names an entry in the directory of the source, and leads where that leads.
-/
theorem names_fixture (h : case.Stems extension (visit.file name) stem)
    (hvisit : visit.Comes fs root)
    (hplace : fs.locate true case.fixture = .ok place) :
    ∃ fixture : Name, fixture.bytes = Utf8.encode (fixtureText stem extension) ∧
      fs.Names case.fixture (fixture :: visit.location) ∧
      fs.resolve true visit.links visit.location [.enter fixture] = .ok place := by
  obtain ⟨fixture, hbytes, hresolve⟩ := h.locate_fixture hvisit hplace
  refine ⟨fixture, hbytes, ?_, hresolve⟩
  rw [h.fixture]
  refine hvisit.reaches.trimmed.names_join hvisit.isDirectory h.slash_not_mem ?_
  rw [← hbytes, Visit.ofSegment_bytes]

end TestCase.Stems

/-- Where fixtures of two cases are one file, the cases have one source that is reached by two
paths, or one of the fixtures is a link. -/
theorem sameEntry_of_sameFile (h : discover fs root extension = .ok all) (hcase : case ∈ all)
    (hother : other ∈ all) (hsame : fs.SameFile case.fixture other.fixture) :
    fs.SameEntry case.source other.source ∨ fs.IsLink case.fixture ∨ fs.IsLink other.fixture := by
  obtain ⟨place, at_, hplace, hat, heq⟩ := hsame
  obtain ⟨visit, name, stem, hvisit, hstems⟩ := exists_visit_of_discover h hcase
  obtain ⟨inner, name', stem', hinner, hstems'⟩ := exists_visit_of_discover h hother
  obtain ⟨fixture, hbytes, hnames, hresolve⟩ := hstems.names_fixture hvisit hplace
  obtain ⟨fixture', hbytes', hnames', hresolve'⟩ := hstems'.names_fixture hinner hat
  by_contra hnone
  obtain ⟨hsource, hlink, hlink'⟩ : ¬ fs.SameEntry case.source other.source ∧
      ¬ fs.IsLink case.fixture ∧ ¬ fs.IsLink other.fixture := by
    simpa only [not_or] using hnone
  have hlocation := FileSystem.location_of_enter hvisit.isDirectory
    (fun target htarget => hlink ⟨_, target, hnames, htarget⟩) hresolve
  have hlocation' := FileSystem.location_of_enter hinner.isDirectory
    (fun target htarget => hlink' ⟨_, target, hnames', htarget⟩) hresolve'
  obtain ⟨hfixture, hdirectory⟩ := List.cons.inj (hlocation.symm.trans (heq.trans hlocation'))
  have hname : name = name' :=
    hstems.name_inj hstems' (hbytes.symm.trans (hfixture ▸ hbytes'))
  refine hsource ⟨name :: visit.location, hstems.names_source hvisit, ?_⟩
  rw [hname, hdirectory]
  exact hstems'.names_source hinner

/-! ### Fixtures that are shared -/

namespace Created

/-- Fixtures that are one file in the end were so at first. -/
theorem sameFile {path path' : Path} (hcreated : Created p fs cases after)
    (h : after.SameFile path path') : fs.SameFile path path' := by
  induction hcreated with
  | nil => exact h
  | cons _ hwrite _ ih => exact (ih h).of_write hwrite

/-- What a file holds is kept while fixtures are created that are other files. -/
theorem fileText {path : Path} {text : Text} (hcreated : Created p fs cases after)
    (h : fs.fileText path = .ok text)
    (hothers : ∀ other ∈ cases, ¬ fs.SameFile path other.fixture) :
    after.fileText path = .ok text := by
  induction hcreated with
  | nil => exact h
  | cons _ hwrite _ ih =>
    obtain ⟨hcase, hrest⟩ := List.forall_mem_cons.mp hothers
    refine ih (FileSystem.fileText_write_of_not_sameFile hwrite h hcase) ?_
    exact fun other hmem hsame => hrest other hmem (hsame.of_write hwrite)

end Created

/-! ### Creating runs -/

namespace Harness

variable {harness : Harness} {labelRoot : Text} {world left : World harness.pipeline.State}
  {summary : Summary}

/-- A case whose fixture is not written again keeps the output that has been made when its turn has
come, that is when the earlier cases have been run. -/
theorem fileText_of_runCases {earlier later : List TestCase} {start : Summary}
    (hmode : harness.config.mode = .create)
    (h : harness.runCases labelRoot (earlier ++ case :: later) start world = .ok summary left)
    (hothers : ∀ other ∈ later, ¬ world.files.SameFile case.fixture other.fixture) :
    ∃ output state, caseOutput harness.pipeline
        (RunM.after (harness.runCases labelRoot earlier start world)).files
        harness.pipeline.initial case = .ok (output, state) ∧
      left.files.fileText case.fixture = .ok output := by
  rw [runCases_append] at h
  obtain ⟨counted, turn, hearlier, h⟩ := RunM.exists_of_bind_eq_ok h
  obtain ⟨result, settledWorld, hcase, hlater⟩ := RunM.exists_of_bind_eq_ok h
  obtain ⟨⟨source, hsource⟩, -, hwrite⟩ := settled_create hmode (settled_of_reportCase hcase)
  rw [hearlier, RunM.after]
  refine ⟨_, _, caseOutput_of_source hsource, ?_⟩
  -- The output is read back where it has been written, and then from one case to the next.
  have hcreated := (created_of_runCases hmode hearlier).1
  have hwritten : settledWorld.files.fileText case.fixture =
      .ok (freshOutput harness.pipeline turn.files case) := by
    obtain ⟨place, hplace, htakes, hfiles⟩ := FileSystem.exists_of_write hwrite
    rw [hfiles]
    exact FileSystem.fileText_put_self htakes hplace _
  refine (created_of_runCases hmode hlater).1.fileText hwritten ?_
  exact fun other hmem hsame => hothers other hmem (hcreated.sameFile (hsame.of_write hwrite))

/-- Fixtures of two cases are one file only if the cases have one source that is reached by two
paths, or if one of the fixtures is a link. A creating run that goes through leaves the output of a
case, as it has been made when its turn has come, in its fixture, unless a later case of the run has
the same one. -/
theorem baselines_of_run (harness : Harness) (world : World harness.pipeline.State)
    (hdiscover : discover world.files harness.config.root harness.config.extension = .ok all) :
    (∀ case ∈ all, ∀ other ∈ all, world.files.SameFile case.fixture other.fixture →
      world.files.SameEntry case.source other.source ∨ world.files.IsLink case.fixture ∨
        world.files.IsLink other.fixture) ∧
    (∀ labelRoot summary left, harness.config.mode = .create →
      harness.run labelRoot world = .ok summary left →
      ∃ cases, harness.cases world.files = .ok cases ∧ (∀ case ∈ cases, case ∈ all) ∧
        ∀ earlier case later, cases = earlier ++ case :: later →
          (∀ other ∈ later, ¬ world.files.SameFile case.fixture other.fixture) →
          ∃ output state, caseOutput harness.pipeline
              (RunM.after (harness.runCases labelRoot earlier {} world)).files
              harness.pipeline.initial case = .ok (output, state) ∧
            left.files.fileText case.fixture = .ok output) := by
  refine ⟨fun case hcase other hother => sameEntry_of_sameFile hdiscover hcase hother, ?_⟩
  intro labelRoot summary left hmode hrun
  cases hcases : harness.cases world.files with
  | error error =>
    rw [run_of_error hcases] at hrun
    cases hrun
  | ok cases =>
    obtain ⟨found, hfound, hall⟩ := exists_discover_of_cases hcases
    obtain rfl := Except.ok.inj (hfound.symm.trans hdiscover)
    refine ⟨cases, rfl, hall, ?_⟩
    rintro earlier case later rfl hothers
    rw [run_of_cases hcases] at hrun
    obtain ⟨total, ended, hcasesRun, hrun⟩ := RunM.exists_of_bind_eq_ok hrun
    obtain ⟨_, reported, hreport, hrun⟩ := RunM.exists_of_bind_eq_ok hrun
    have hfiles := RunM.files_of_report hreport
    cases hrun
    rw [hfiles]
    exact fileText_of_runCases hmode hcasesRun hothers

/-! ### A source that is reached by two paths -/

/-- A pipeline that gives back the name under which a source is parsed, as diagnostics do. -/
def naming : Pipeline where
  State := Unit
  Program := Text
  initial := ()
  parse := fun state _ fileName => (⟨fileName, []⟩, state)
  serialize := fun _ program => program

/-- A creating run of that pipeline. -/
def namingRun : Harness := { echoing with
  config := { echoing.config with mode := .create }
  pipeline := naming }

/-- A source in a directory, and a link beside the directory that leads to it. -/
def aliasedSource : FileSystem :=
  (((FileSystem.empty.put directoryT .directory).put
    (.ofText "one".toList :: directoryT) .directory).put
    (.ofText "c.s".toList :: .ofText "one".toList :: directoryT) (.file [])).put
    (.ofText "two".toList :: directoryT) (.link (.ofText "one".toList))

theorem discover_aliasedSource :
    discover aliasedSource (.ofText "t".toList) "s".toList =
      .ok [caseOf "one/c", caseOf "two/c"] := by
  let start : Visit := .start (.ofText "t".toList) directoryT maxLinks
  have hchildren :
      aliasedSource.children directoryT = [.ofText "one".toList, .ofText "two".toList] :=
    FileSystem.children_eq_of_perm (by decide) (by decide)
  have hinner :
      aliasedSource.children (.ofText "one".toList :: directoryT) = [.ofText "c.s".toList] :=
    FileSystem.children_eq_of_perm (by decide) (by decide)
  have hbelow (visit : Visit) (hvisit : visit.location = .ofText "one".toList :: directoryT) :
      aliasedSource.Walks visit (aliasedSource.children visit.location)
        [visit.file (.ofText "c.s".toList)] := by
    have hentry : aliasedSource.lookup
        (.ofText "c.s".toList :: .ofText "one".toList :: directoryT) = some (.file []) := by cbv
    exact .of_children (hvisit ▸ hinner)
      (List.forall_mem_singleton.mpr (.file (hvisit ▸ hentry)))
  have hdirectory : start.Opens aliasedSource (.ofText "one".toList) _ := .directory (by cbv)
  have hlink : start.Opens aliasedSource (.ofText "two".toList)
      (start.descend (.ofText "two".toList) 39 (.ofText "one".toList :: directoryT)) :=
    .link (by cbv) (by cbv) (by cbv) (by cbv)
  have hwalks : aliasedSource.Walks start (aliasedSource.children directoryT)
      [⟨.ofText "t/one".toList, [.ofText "one".toList], .ofText "c.s".toList⟩,
        ⟨.ofText "t/two".toList, [.ofText "two".toList], .ofText "c.s".toList⟩] := by
    rw [hchildren]
    exact .directory hdirectory (hbelow _ rfl) (.directory hlink (hbelow _ rfl) .nil)
  have hwalk := FileSystem.walk_eq_ok_iff.mpr ⟨directoryT, maxLinks, by cbv, by cbv, hwalks⟩
  exact discover_eq_ok_iff.mpr ⟨_, hwalk, by decide +kernel⟩

theorem cases_aliasedSource :
    namingRun.cases aliasedSource = .ok [caseOf "one/c", caseOf "two/c"] :=
  Config.cases_of_discover rfl (List.cons_ne_nil _ _) discover_aliasedSource

/-- What is made of a source that can be read is its name. -/
theorem eq_of_caseOutput_naming {output : Text} {state : Unit}
    (h : caseOutput naming fs () case = .ok (output, state)) : output = case.fileName := by
  unfold caseOutput at h
  cases hsource : fs.fileText case.source with
  | error fault => simp [hsource] at h
  | ok source =>
    simp only [hsource, Except.ok.injEq] at h
    simpa [Pipeline.output, naming, renderOutput] using (congrArg Prod.fst h).symm

/-- Where the fixtures of both cases belong. -/
def fixtureC : Location := .ofText "c.fixture.s".toList :: .ofText "one".toList :: directoryT

/-- That file system once there is a fixture. -/
def aliasedFixture (content : Bytes) : FileSystem := aliasedSource.put fixtureC (.file content)

theorem created_aliasedSource :
    ∃ content, Created naming aliasedSource [caseOf "one/c", caseOf "two/c"]
      ((aliasedFixture content).put fixtureC (.file (Utf8.encode "two/c.s".toList))) := by
  have hsource : aliasedSource.fileText (caseOf "one/c").source = .ok [] :=
    FileSystem.fileText_of_content (by cbv)
  have htarget : aliasedSource.writeTarget (caseOf "one/c").fixture = .ok fixtureC := by cbv
  have hother (content : Bytes) :
      (aliasedFixture content).fileText (caseOf "two/c").source = .ok [] :=
    FileSystem.fileText_of_content (by cbv)
  have hotherTarget (content : Bytes) :
      (aliasedFixture content).writeTarget (caseOf "two/c").fixture = .ok fixtureC := by
    cbv
  have houtput (content : Bytes) :
      freshOutput naming (aliasedFixture content) (caseOf "two/c") = "two/c.s".toList :=
    eq_of_caseOutput_naming (caseOutput_of_source (hother content))
  have hotherWrite (content : Bytes) :
      (aliasedFixture content).write (caseOf "two/c").fixture
          (Utf8.encode (freshOutput naming (aliasedFixture content) (caseOf "two/c"))) =
        .ok ((aliasedFixture content).put fixtureC (.file (Utf8.encode "two/c.s".toList))) := by
    rw [houtput]
    exact FileSystem.write_of_writeTarget (hotherTarget content) _
  exact ⟨_, .cons hsource (FileSystem.write_of_writeTarget htarget _)
    (.cons (hother _) (hotherWrite _) .nil)⟩

/-- Both cases are created, and the fixture of the first one holds the output of the second. -/
theorem run_aliasedSource :
    ∃ summary left, namingRun.run "t".toList ⟨aliasedSource, {}, []⟩ = .ok summary left ∧
      left.files.fileText (caseOf "one/c").fixture = .ok "two/c.s".toList := by
  have hroom : (World.mk aliasedSource {} [] : World namingRun.pipeline.State).sink.room = none :=
    rfl
  obtain ⟨content, hcreated⟩ := created_aliasedSource
  obtain ⟨summary, left, hrun, hfiles⟩ :=
    run_of_created "t".toList rfl hroom cases_aliasedSource hcreated
  refine ⟨summary, left, hrun, ?_⟩
  rw [hfiles]
  exact FileSystem.fileText_of_content (by cbv)

/-- The later one of the two cases keeps its output. -/
theorem baselines_of_run_aliasedSource :
    discover aliasedSource (.ofText "t".toList) "s".toList = .ok [caseOf "one/c", caseOf "two/c"] ∧
      ∃ summary left, namingRun.run "t".toList ⟨aliasedSource, {}, []⟩ = .ok summary left ∧
        left.files.fileText (caseOf "two/c").fixture = .ok "two/c.s".toList := by
  obtain ⟨summary, left, hrun, -⟩ := run_aliasedSource
  obtain ⟨-, hcreate⟩ := baselines_of_run namingRun ⟨aliasedSource, {}, []⟩
    discover_aliasedSource
  obtain ⟨cases, hcases, -, hkept⟩ := hcreate "t".toList summary left rfl hrun
  obtain rfl := Except.ok.inj (hcases.symm.trans cases_aliasedSource)
  obtain ⟨output, state, houtput, htext⟩ :=
    hkept [caseOf "one/c"] (caseOf "two/c") [] rfl (List.forall_mem_nil _)
  obtain rfl := eq_of_caseOutput_naming houtput
  exact ⟨discover_aliasedSource, summary, left, hrun, htext⟩

/-- The directory with two sources, with a link to the fixture of the second one as that of the
first. -/
def linkedBaseline : FileSystem :=
  (twoSources.put (.ofText "b.fixture.s".toList :: directoryT) (.file [])).put
    (fixtureA.name :: directoryT) (.link (.ofText "b.fixture.s".toList))

theorem discover_linkedBaseline :
    discover linkedBaseline (.ofText "t".toList) "s".toList = .ok [caseOf "a", caseOf "b"] := by
  have hchildren : linkedBaseline.children directoryT =
      [fixtureA.name, .ofText "a.s".toList, .ofText "b.fixture.s".toList,
        .ofText "b.s".toList] :=
    FileSystem.children_eq_of_perm (by decide) (by decide)
  have hlocate : linkedBaseline.locate true (.ofText "t".toList) =
      .ok (.found directoryT maxLinks) := by
    cbv
  have hlink : (Visit.start (.ofText "t".toList) directoryT maxLinks).Holds linkedBaseline
      fixtureA.name :=
    .link (by cbv) (by cbv) (Bool.eq_false_iff.mp (by cbv))
  have hwalk := FileSystem.walk_of_children hlocate rfl hchildren
    (List.forall_mem_cons.mpr ⟨hlink, List.forall_mem_cons.mpr ⟨.file rfl,
      List.forall_mem_cons.mpr ⟨.file rfl, List.forall_mem_singleton.mpr (.file rfl)⟩⟩⟩)
  exact discover_eq_ok_iff.mpr ⟨_, hwalk, by decide +kernel⟩

/-- Two cases of one source share their fixture, and the first one loses its output in a run. Two
cases of two sources share it as well if that of the first is a link to that of the second. -/
theorem fixtures_shared :
    (discover aliasedSource (.ofText "t".toList) "s".toList = .ok [caseOf "one/c", caseOf "two/c"] ∧
      caseOf "one/c" ≠ caseOf "two/c" ∧
      aliasedSource.SameFile (caseOf "one/c").fixture (caseOf "two/c").fixture ∧
      ∃ summary left, namingRun.run "t".toList ⟨aliasedSource, {}, []⟩ = .ok summary left ∧
        left.files.fileText (caseOf "one/c").fixture = .ok "two/c.s".toList ∧
        ∀ files output state, caseOutput naming files () (caseOf "one/c") = .ok (output, state) →
          output = "one/c.s".toList) ∧
    (discover linkedBaseline (.ofText "t".toList) "s".toList = .ok [caseOf "a", caseOf "b"] ∧
      linkedBaseline.SameFile (caseOf "a").fixture (caseOf "b").fixture ∧
      ¬ linkedBaseline.SameEntry (caseOf "a").source (caseOf "b").source) := by
  refine ⟨?_, discover_linkedBaseline, ?_, ?_⟩
  · obtain ⟨summary, left, hrun, hread⟩ := run_aliasedSource
    have hplace : ∃ x, aliasedSource.locate true (caseOf "one/c").fixture = .ok (.vacant x) ∧
        aliasedSource.locate true (caseOf "two/c").fixture = .ok (.vacant x) := ⟨_, by cbv, by cbv⟩
    obtain ⟨x, hfirst, hsecond⟩ := hplace
    refine ⟨discover_aliasedSource, by decide, ⟨_, _, hfirst, hsecond, rfl⟩, summary, left, hrun,
      hread, ?_⟩
    intro files output state h
    exact eq_of_caseOutput_naming h
  · exact ⟨.found (.ofText "b.fixture.s".toList :: directoryT) 39,
      .found (.ofText "b.fixture.s".toList :: directoryT) 40, by cbv, by cbv, rfl⟩
  · rintro ⟨location, hfirst, hsecond⟩
    have hnames : linkedBaseline.Names (caseOf "a").source
        (.ofText "a.s".toList :: directoryT) := ⟨.found _ 40, by cbv, rfl⟩
    have hnames' : linkedBaseline.Names (caseOf "b").source
        (.ofText "b.s".toList :: directoryT) := ⟨.found _ 40, by cbv, rfl⟩
    have heq := (hnames.unique hfirst).trans (hsecond.unique hnames')
    revert heq
    decide

end Harness

end GoldenFiles
