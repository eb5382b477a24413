import GoldenFiles.Proofs.Run.Effects

/-!
# Runs and discovery

What a run writes never comes back as a case. A verifying run writes nothing. A creating run writes
fixtures, one for each case whose turn comes, and each of these leaves the cases as they are: a
fixture that is made has a name that no source has, and one that is replaced stays a file. This
needs no assumption about where links lead, since a walk that has gone through has found the end of
every link on its way.

## Main results

* `Harness.discover_settled` — settling a case
* `Harness.discover_after_run` — a whole run
-/

namespace GoldenFiles.Harness

variable {harness : Harness} {labelRoot : Text} {world : World harness.pipeline.State}

/-- Settling a case leaves the cases as they are. -/
theorem discover_settled {fs files : FileSystem} {root : Path} {extension : Text}
    {all : List TestCase} {case : TestCase} {result : CaseResult}
    (h : discover fs root extension = .ok all) (hcase : case ∈ all)
    (hsettled : harness.settled fs case = .ok (result, files)) :
    discover files root extension = .ok all := by
  rcases settled_files hsettled with rfl | ⟨content, hwrite⟩
  · exact h
  · exact discover_write_fixture h hcase hwrite

/-- However a run ends, and wherever links lead, discovery finds afterwards what it found before. -/
theorem discover_after_run (harness : Harness) (labelRoot : Text)
    (world : World harness.pipeline.State) :
    discover (RunM.after (harness.run labelRoot world)).files harness.config.root
        harness.config.extension =
      discover world.files harness.config.root harness.config.extension := by
  cases hcases : harness.cases world.files with
  | error error => rw [run_of_error hcases, RunM.after]
  | ok cases =>
    obtain ⟨all, hdiscover, hall⟩ := exists_discover_of_cases hcases
    rw [hdiscover]
    refine files_run (P := fun files =>
      discover files harness.config.root harness.config.extension = .ok all) hdiscover ?_
    intro found hfound case hmem fs result files hfs hsettled
    rw [hcases] at hfound
    cases hfound
    exact discover_settled hfs (hall case hmem) hsettled

/-- The directory with two sources, with the fixture of the first one as a link to a file outside,
and with a link to another directory. -/
def linkedFixture : FileSystem :=
  (((twoSources.put [.ofText "out".toList] (.file [])).put
    (fixtureA.name :: directoryT) (.link (.ofText "../out".toList))).put
    [.ofText "u".toList] .directory).put
    (.ofText "more".toList :: directoryT) (.link (.ofText "/u".toList))

theorem lookup_linkedFixture : linkedFixture.lookup (fixtureA.name :: directoryT) =
    some (.link (.ofText "../out".toList)) := by
  cbv

/-- The link goes up from the directory that it is in. -/
theorem resolve_linkedFixture :
    linkedFixture.resolve true maxLinks directoryT [.enter fixtureA.name] =
      .ok (.found [.ofText "out".toList] 39) := by
  have hsteps : (Path.ofText "../out".toList).steps = [.up, .enter (.ofText "out".toList)] := by
    decide
  have hout : linkedFixture.resolve true 39 [] [.enter (.ofText "out".toList)] =
      .ok (.found [.ofText "out".toList] 39) := by
    cbv
  refine (FileSystem.resolve_enter_of_link rfl lookup_linkedFixture (by decide)).trans ?_
  rw [hsteps]
  exact (FileSystem.resolve_up rfl).trans hout

theorem discover_linkedFixture :
    discover linkedFixture (.ofText "t".toList) "s".toList = .ok [caseOf "a", caseOf "b"] := by
  let start : Visit := .start (.ofText "t".toList) directoryT maxLinks
  have hchildren : linkedFixture.children directoryT =
      [fixtureA.name, .ofText "a.s".toList, .ofText "b.s".toList, .ofText "more".toList] :=
    FileSystem.children_eq_of_perm (by decide) (by decide)
  have hempty : linkedFixture.children [.ofText "u".toList] = [] :=
    FileSystem.children_eq_of_perm (by decide) (by decide)
  have hfixture : start.Holds linkedFixture fixtureA.name :=
    .link lookup_linkedFixture resolve_linkedFixture (Bool.eq_false_iff.mp (by cbv))
  have hfirst : start.Holds linkedFixture (.ofText "a.s".toList) := .file (by cbv)
  have hsecond : start.Holds linkedFixture (.ofText "b.s".toList) := .file (by cbv)
  have hmore : start.Opens linkedFixture (.ofText "more".toList)
      (start.descend (.ofText "more".toList) 39 [.ofText "u".toList]) :=
    .link (by cbv) (by cbv) (by cbv) (by cbv)
  have hwalks : linkedFixture.Walks start (linkedFixture.children directoryT)
      [fixtureA, ⟨.ofText "t".toList, [], .ofText "a.s".toList⟩,
        ⟨.ofText "t".toList, [], .ofText "b.s".toList⟩] := by
    rw [hchildren]
    exact .file hfixture (.file hfirst (.file hsecond
      (.directory hmore (.of_children hempty (List.forall_mem_nil _)) .nil)))
  have hwalk := FileSystem.walk_eq_ok_iff.mpr ⟨directoryT, maxLinks, by cbv, by cbv, hwalks⟩
  exact discover_eq_ok_iff.mpr ⟨_, hwalk, by decide +kernel⟩

/-- A creating run writes through the link, and the cases stay. -/
theorem discover_after_run_linkedFixture :
    discover (RunM.after ((Harness.mk { echoing.config with mode := .create } echo
        echoing.differ).run "t".toList ⟨linkedFixture, {}, []⟩)).files (.ofText "t".toList)
          "s".toList =
      .ok [caseOf "a", caseOf "b"] := by
  have hafter := discover_after_run (Harness.mk { echoing.config with mode := .create } echo
    echoing.differ) "t".toList ⟨linkedFixture, {}, []⟩
  exact hafter.trans discover_linkedFixture

end GoldenFiles.Harness
