import GoldenFiles.Proofs.Report.Lines
import GoldenFiles.Proofs.Run.LineEndings
import GoldenFiles.Proofs.Text.ConsoleLines
import Mathlib.Data.List.Infix

/-!
# What a report shows of a rendering

A rendering joins its lines by line feeds, and a report takes it apart again as a console does.
Where a line ends in a carriage return, the two do not agree: the report shows the rendering in
normal form, without the carriage returns at the ends of its lines. Normalizing a fixture and an
output before they are compared does not rule that out, since a carriage return may end a text, or
stand in front of a pair.

## Main results

* `Report.render_outcome_diff` — a rendering is shown in normal form
* `Diff.getLast?_ne_return` — the lines of a rendering that do not end in a carriage return
* `rendering_reported` — a failed comparison and its report
* `not_forall_rendering_reported` — two lines that differ and are shown alike
-/

namespace GoldenFiles

variable {fs : FileSystem} {case : TestCase} {context : Nat}
  {labelRoot label expected actual rendering : Text}

/-! ### Lines of renderings -/

namespace Diff

theorem DiffLine.text_ne_nil (line : DiffLine) : line.text ≠ [] := by
  cases line <;> exact List.cons_ne_nil _ _

/-- Texts that differ have something to show. -/
theorem bodyLines_ne_nil (context : Nat) (h : expected ≠ actual) :
    bodyLines context expected actual ≠ [] := by
  intro hnil
  have hrebuilt := rebuild_bodyLines context expected actual .removed (by decide)
  rw [hnil, rebuild, (sideLines_taggedLines expected actual).2] at hrebuilt
  have hleft := (sideLines_taggedLines expected actual).1.symm.trans hrebuilt
  rw [← unpieces_visible expected, hleft, unpieces_visible] at h
  exact h rfl

/-- The last line of a rendering is not empty, whatever the label. -/
theorem exists_pieces_render (context : Nat) (label : Text) (h : expected ≠ actual) :
    ∃ front last, last ≠ [] ∧
      Text.pieces (render context label expected actual) = front ++ [last] := by
  obtain ⟨body, line, hbody⟩ :=
    (bodyLines context expected actual).eq_nil_or_concat.resolve_left (bodyLines_ne_nil context h)
  refine ⟨Text.pieces (Text.unpieces (headerLines label)) ++ body.map DiffLine.text, line.text,
    line.text_ne_nil, ?_⟩
  have hheader : headerLines label ≠ [] := List.cons_ne_nil _ _
  rw [render, Text.pieces_unpieces_append hheader fun _ => lineFeed_notMem_of_mem_bodyLines, hbody,
    List.concat_eq_append]
  simp

/-- No line of a rendering ends in a carriage return if neither the label does nor a line of one of
the texts. -/
theorem getLast?_ne_return (hlabel : '\n' ∉ label) (hend : label.getLast? ≠ some '\r')
    (hexpected : ∀ line ∈ Text.pieces expected, line.getLast? ≠ some '\r')
    (hactual : ∀ line ∈ Text.pieces actual, line.getLast? ≠ some '\r') :
    ∀ line ∈ Text.pieces (render context label expected actual), line.getLast? ≠ some '\r' := by
  rw [pieces_render context expected actual hlabel, List.forall_mem_append]
  constructor
  · have hbehind {text : Text} (htext : text.getLast? ≠ some '\r') :
        (text ++ label).getLast? ≠ some '\r' := by
      rw [List.getLast?_append]
      cases hlast : label.getLast? with
      | none => simpa using htext
      | some c => simpa [hlast] using hend
    exact List.forall_mem_cons.mpr
      ⟨hbehind (by decide), List.forall_mem_singleton.mpr (hbehind (by decide))⟩
  · rw [List.forall_mem_map]
    intro line hline
    cases line with
    | shown shown =>
      have hshown : shown.line.getLast? ≠ some '\r' :=
        (mem_pieces_of_mem_taggedLines (mem_taggedLines_of_shown hline)).elim (hexpected _)
          (hactual _)
      have hmark : shown.tag.mark ≠ '\r' := by cases shown.tag <;> decide
      rw [DiffLine.text, List.getLast?_cons]
      cases hlast : shown.line.getLast? with
      | none => simpa [hlast] using hmark
      | some c => simpa [hlast] using hshown
    | elided count =>
      rw [DiffLine.text, List.getLast?_append_of_ne_nil _ (by decide)]
      decide

end Diff

/-! ### Reports -/

/-- What is reported of a failed comparison is its rendering in normal form, and the status. -/
theorem Report.render_outcome_diff {front : List Text} {last : Text}
    (h : Text.pieces rendering = front ++ [last]) (hlast : last ≠ []) :
    (Report.outcome (.fail (.diff rendering))).render false =
      Text.normalize rendering ++ "\ndiff ERROR\n\n".toList := by
  have hempty : StyledText.HasLines [⟨none, ['\n']⟩] [[]] := rfl
  have hlines : (Report.outcome (.fail (.diff rendering))).HasLines
      (Text.consoleLines rendering ++ ["diff ERROR".toList] ++ [[]]) :=
    (hasLines_status (.fail (.diff rendering))).append hempty
  rw [hlines, List.append_assoc, List.flatMap_append, Text.flatMap_consoleLines h hlast,
    List.append_assoc]
  rfl

/-- A comparison fails with the rendering of two texts that differ. -/
theorem exists_of_verifyFixture_diff
    (h : verifyFixture fs case actual (Diff.lineDiffer context) labelRoot =
      .ok (.fail (.diff rendering))) :
    ∃ expected, fs.fileText case.fixture = .ok expected ∧
      Text.normalize expected ≠ Text.normalize actual ∧
      rendering = Diff.render context (fixtureLabel labelRoot case) (Text.normalize expected)
        (Text.normalize actual) := by
  unfold verifyFixture at h
  split at h
  · cases h
  · cases h
  · next expected hexpected =>
    rw [Diff.compareTexts_lineDiffer] at h
    refine ⟨expected, hexpected, ?_⟩
    split at h
    · cases h
    · next hne =>
      cases h
      exact ⟨hne, rfl⟩

/-- A failed comparison is reported with its rendering in normal form, behind whatever had been
written before. So the report shows the rendering as it is exactly if no line of it but the last one
ends in a carriage return, and that is so if neither the fixture nor the output ends in a carriage
return or has one in front of a pair, and the label is not broken and does not end in one either. -/
theorem rendering_reported {sink : Sink} (hplain : sink.coloured = false) (hroom : sink.room = none)
    (h : verifyFixture fs case actual (Diff.lineDiffer context) labelRoot =
      .ok (.fail (.diff rendering))) :
    ∃ left expected, sink.write (Report.outcome (.fail (.diff rendering))) = (left, none) ∧
      left.written = sink.written ++
        Utf8.encode (Text.normalize rendering ++ "\ndiff ERROR\n\n".toList) ∧
      (left.written = sink.written ++ Utf8.encode (rendering ++ "\ndiff ERROR\n\n".toList) ↔
        ∀ line ∈ (Text.pieces rendering).dropLast, line.getLast? ≠ some '\r') ∧
      fs.fileText case.fixture = .ok expected ∧
      ('\n' ∉ fixtureLabel labelRoot case → (fixtureLabel labelRoot case).getLast? ≠ some '\r' →
        (∀ text ∈ [expected, actual], ¬ Text.returnedPair <:+: text ∧ text.getLast? ≠ some '\r') →
          ∀ line ∈ (Text.pieces rendering).dropLast, line.getLast? ≠ some '\r') := by
  obtain ⟨expected, hexpected, hne, hrendering⟩ := exists_of_verifyFixture_diff h
  obtain ⟨front, last, hlast, hpieces⟩ :=
    Diff.exists_pieces_render context (fixtureLabel labelRoot case) hne
  rw [← hrendering] at hpieces
  have hwritten : (sink.add (Report.outcome (.fail (.diff rendering)))).written = sink.written ++
      Utf8.encode (Text.normalize rendering ++ "\ndiff ERROR\n\n".toList) := by
    rw [Sink.add, hplain, Report.render_outcome_diff hpieces hlast]
  refine ⟨_, expected, Sink.write_of_unlimited hroom, hwritten, ?_, hexpected, ?_⟩
  · rw [hwritten, List.append_cancel_left_eq, hpieces, List.dropLast_concat,
      ← Text.normalize_eq_self_iff_lines hpieces]
    refine ⟨fun hencoded => ?_, fun heq => by rw [heq]⟩
    exact List.append_cancel_right (Utf8.encode_injective hencoded)
  · intro hlabel hend htexts line hline
    obtain ⟨hleft, hright⟩ := List.forall_mem_cons.mp htexts
    rw [List.forall_mem_singleton] at hright
    rw [hrendering] at hline
    exact Diff.getLast?_ne_return hlabel hend (Text.forall_pieces_normalize hleft.1 hleft.2)
      (Text.forall_pieces_normalize hright.1 hright.2) line (List.dropLast_subset _ hline)

namespace Harness

/-- A carriage return within a line is shown, and the pair at the end of the fixture is a line feed
by then. -/
theorem rendering_reported_innerReturn :
    let rendering := "--- expected t/e.fixture.s\n+++ actual t/e.fixture.s\n-a\rb\n-\n+c".toList
    verifyFixture (holding "a\rb\r\n".toList) (caseOf "e") "c".toList
        (Diff.lineDiffer Diff.defaultContext) "t".toList = .ok (.fail (.diff rendering)) ∧
      ∃ left, ({} : Sink).write (Report.outcome (.fail (.diff rendering))) = (left, none) ∧
        left.written = Utf8.encode (rendering ++ "\ndiff ERROR\n\n".toList) := by
  intro rendering
  have hverify : verifyFixture (holding "a\rb\r\n".toList) (caseOf "e") "c".toList
      (Diff.lineDiffer Diff.defaultContext) "t".toList = .ok (.fail (.diff rendering)) := by
    rw [verifyFixture_of_fileText (fileText_holding _).2]
    decide +kernel
  have hplain : ({} : Sink).coloured = false := rfl
  obtain ⟨left, expected, hwrite, -, hshown, hexpected, hlines⟩ :=
    rendering_reported hplain rfl hverify
  rw [(fileText_holding _).2] at hexpected
  cases hexpected
  exact ⟨hverify, left, hwrite, hshown.mpr (hlines (by decide) (by decide) (by decide))⟩

/-- A fixture that ends in a carriage return, and an output that is the same but for that, are
reported as two lines that are the same. -/
theorem not_forall_rendering_reported :
    let rendering := "--- expected t/e.fixture.s\n+++ actual t/e.fixture.s\n-a\r\n+a".toList
    ¬ (∀ (fs : FileSystem) (case : TestCase) (actual labelRoot rendering : Text) (context : Nat),
      verifyFixture fs case actual (Diff.lineDiffer context) labelRoot =
          .ok (.fail (.diff rendering)) →
        (({} : Sink).write (Report.outcome (.fail (.diff rendering)))).1.written =
          Utf8.encode (rendering ++ "\ndiff ERROR\n\n".toList)) ∧
    verifyFixture (holding "a\r".toList) (caseOf "e") "a".toList
        (Diff.lineDiffer Diff.defaultContext) "t".toList = .ok (.fail (.diff rendering)) ∧
    (({} : Sink).write (Report.outcome (.fail (.diff rendering)))).1.written = Utf8.encode
      "--- expected t/e.fixture.s\n+++ actual t/e.fixture.s\n-a\n+a\ndiff ERROR\n\n".toList := by
  intro rendering
  have hverify : verifyFixture (holding "a\r".toList) (caseOf "e") "a".toList
      (Diff.lineDiffer Diff.defaultContext) "t".toList = .ok (.fail (.diff rendering)) := by
    rw [verifyFixture_of_fileText (fileText_holding _).2]
    decide +kernel
  have hrender : (Report.outcome (.fail (.diff rendering))).render false =
      "--- expected t/e.fixture.s\n+++ actual t/e.fixture.s\n-a\n+a\ndiff ERROR\n\n".toList := by
    simp only [rendering]
    cbv
  have hwritten :
      (({} : Sink).write (Report.outcome (.fail (.diff rendering)))).1.written = Utf8.encode
      "--- expected t/e.fixture.s\n+++ actual t/e.fixture.s\n-a\n+a\ndiff ERROR\n\n".toList := by
    rw [Sink.write_of_unlimited rfl, ← hrender]
    rfl
  refine ⟨fun h => ?_, hverify, hwritten⟩
  have hshown := hwritten.symm.trans (h _ _ _ _ _ _ hverify)
  exact absurd (Utf8.encode_injective hshown) (by decide)

end Harness

end GoldenFiles
