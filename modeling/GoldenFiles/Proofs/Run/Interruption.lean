import GoldenFiles.Proofs.Run.Steps

/-!
# Cases on any sink

A report may fail at any byte, and then the run ends where it is. That a text has been written
behind others is said by writing all of them at once to the sink as it was at first. A case thus
ends in one of four ways: before it is run, without being settled, before its outcome is written, or
with its whole block written.

## Main definitions

* `Harness.CaseEnds` — the four ways in which a case can end
* `RunM.failure` — the error with which a step ends the run

## Main results

* `Sink.write_write` — two texts are written as one
* `Harness.reportCase_ends` — every case ends in one of the four ways
-/

namespace GoldenFiles

/-! ### Sinks -/

theorem StyledText.encode_render_append (coloured : Bool) (text more : StyledText) :
    Utf8.encode ((text ++ more).render coloured) =
      Utf8.encode (text.render coloured) ++ Utf8.encode (more.render coloured) := by
  rw [render_append, Utf8.encode, List.flatMap_append]
  rfl

namespace Sink

variable {sink left : Sink} {text more : StyledText}

theorem write_nil : sink.write [] = (sink, none) := by
  obtain ⟨coloured, room, written⟩ := sink
  cases room <;> simp [write, writeBytes, StyledText.render, Utf8.encode]

theorem coloured_write (sink : Sink) (text : StyledText) :
    (sink.write text).1.coloured = sink.coloured := by
  unfold write writeBytes
  cases sink.room <;> rfl

/-- A text that has been written is behind what had been written before. -/
theorem written_of_write (h : sink.write text = (left, none)) :
    left.written = sink.written ++ Utf8.encode (text.render sink.coloured) := by
  obtain ⟨coloured, room, written⟩ := sink
  unfold write writeBytes at h
  cases room with
  | none =>
    cases h
    rfl
  | some room =>
    simp only [Prod.mk.injEq, ite_eq_left_iff, reduceCtorEq, imp_false, Decidable.not_not] at h
    obtain ⟨rfl, hroom⟩ := h
    rw [List.take_of_length_le hroom]

/-- Bytes for which there is room are followed by others as if all had been written at once. -/
theorem writeBytes_writeBytes {bytes others : Bytes} (h : sink.writeBytes bytes = (left, none)) :
    left.writeBytes others = sink.writeBytes (bytes ++ others) := by
  obtain ⟨coloured, room, written⟩ := sink
  cases room with
  | none =>
    cases h
    simp [writeBytes]
  | some room =>
    have hroom : bytes.length ≤ room := by
      apply Decidable.byContradiction
      intro hroom
      simp [writeBytes, hroom] at h
    simp only [writeBytes, if_pos hroom, Prod.mk.injEq, and_true] at h
    subst h
    have hfits : others.length ≤ room - bytes.length ↔ bytes.length + others.length ≤ room := by
      omega
    simp only [writeBytes, List.length_append, hfits, List.take_append,
      List.take_of_length_le hroom, List.append_assoc, Nat.sub_sub]

/-- A text that has been written is followed by another one as if both had been written at once. -/
theorem write_write (h : sink.write text = (left, none)) :
    left.write more = sink.write (text ++ more) := by
  have hcoloured : left.coloured = sink.coloured := by
    rw [← coloured_write sink text, h]
  rw [write, write, StyledText.encode_render_append, hcoloured]
  exact writeBytes_writeBytes h

end Sink

namespace RunM

variable {State : Type} {world : World State} {text : StyledText} {sink : Sink} {fault : Fault}

/-- The error with which a step ends the run, if it does. -/
def failure {α : Type} : EStateM.Result HarnessError (World State) α → Option HarnessError
  | .ok _ _ => none
  | .error error _ => some error

theorem report_of_written (h : world.sink.write text = (sink, none)) :
    report text world = .ok () { world with sink := sink } := by
  simp [report, h]

theorem report_of_cut (h : world.sink.write text = (sink, some fault)) :
    report text world = .error (.output fault) { world with sink := sink } := by
  simp [report, h]

theorem write_of_report {value : Unit} {left : World State}
    (h : report text world = .ok value left) : world.sink.write text = (left.sink, none) := by
  unfold report at h
  cases hwrite : world.sink.write text with
  | mk sink failed =>
    cases failed with
    | none =>
      rw [hwrite] at h
      cases h
      rfl
    | some fault => rw [hwrite] at h; cases h

end RunM

namespace Harness

variable {harness : Harness} {labelRoot : Text} {world : World harness.pipeline.State}

/-! ### A single case -/

/-- How a case can end. A text that follows another one is written behind it, so the outcome of a
case is written if the whole block can be. -/
inductive CaseEnds (harness : Harness) (labelRoot : Text) (case : TestCase)
    (world : World harness.pipeline.State) :
    EStateM.Result HarnessError (World harness.pipeline.State) CaseResult → Prop
  /-- The header cannot be written, and the case is not run. -/
  | header {sink : Sink} {fault : Fault}
    (hheader : world.sink.write (Report.header labelRoot case.fileName) = (sink, some fault)) :
    CaseEnds harness labelRoot case world (.error (.output fault) { world with sink := sink })
  /-- The case is not settled. -/
  | refused {sink : Sink} {error : HarnessError}
    (hheader : world.sink.write (Report.header labelRoot case.fileName) = (sink, none))
    (h : harness.settled world.files case = .error error) :
    CaseEnds harness labelRoot case world
      (.error error { harness.withInstance world case with sink := sink })
  /-- The case is settled, and the outcome cannot be written. -/
  | outcome {between sink : Sink} {fault : Fault} {result : CaseResult} {files : FileSystem}
    (hheader : world.sink.write (Report.header labelRoot case.fileName) = (between, none))
    (h : harness.settled world.files case = .ok (result, files))
    (hblock : world.sink.write (Report.block labelRoot case result.outcome) = (sink, some fault)) :
    CaseEnds harness labelRoot case world
      (.error (.output fault) { harness.withInstance world case with files := files, sink := sink })
  /-- The case is settled, and its block has been written. -/
  | settled {sink : Sink} {result : CaseResult} {files : FileSystem}
    (h : harness.settled world.files case = .ok (result, files))
    (hblock : world.sink.write (Report.block labelRoot case result.outcome) = (sink, none)) :
    CaseEnds harness labelRoot case world
      (.ok result { harness.withInstance world case with files := files, sink := sink })

/-- A case whose header has been written and that is settled ends with its outcome. -/
theorem reportCase_of_written {case : TestCase} {between : Sink} {result : CaseResult}
    {files : FileSystem}
    (hheader : world.sink.write (Report.header labelRoot case.fileName) = (between, none))
    (h : harness.settled world.files case = .ok (result, files)) :
    harness.reportCase labelRoot case world =
      (RunM.report (Report.outcome result.outcome) >>= fun _ => pure result)
        { harness.withInstance world case with files := files, sink := between } := by
  have hrun := harness.runCase_eq case { world with sink := between }
  rw [h] at hrun
  exact (RunM.bind_of_ok (RunM.report_of_written hheader)).trans (RunM.bind_of_ok hrun)

/-- Every case ends in one of the four ways. -/
theorem reportCase_ends (harness : Harness) (labelRoot : Text) (case : TestCase)
    (world : World harness.pipeline.State) :
    CaseEnds harness labelRoot case world (harness.reportCase labelRoot case world) := by
  cases hheader : world.sink.write (Report.header labelRoot case.fileName) with
  | mk between failed =>
    cases failed with
    | some fault =>
      have hcase : harness.reportCase labelRoot case world =
          .error (.output fault) { world with sink := between } :=
        RunM.bind_of_error (RunM.report_of_cut hheader)
      exact hcase ▸ .header hheader
    | none =>
      cases hsettled : harness.settled world.files case with
      | error error =>
        have hrun := harness.runCase_eq case { world with sink := between }
        rw [hsettled] at hrun
        have hcase : harness.reportCase labelRoot case world =
            .error error { harness.withInstance world case with sink := between } :=
          (RunM.bind_of_ok (RunM.report_of_written hheader)).trans (RunM.bind_of_error hrun)
        exact hcase ▸ .refused hheader hsettled
      | ok settled =>
        obtain ⟨result, files⟩ := settled
        rw [reportCase_of_written hheader hsettled]
        have hwrite : between.write (Report.outcome result.outcome) =
            world.sink.write (Report.block labelRoot case result.outcome) :=
          Sink.write_write hheader
        cases hblock : world.sink.write (Report.block labelRoot case result.outcome) with
        | mk sink failed =>
          rw [hblock] at hwrite
          cases failed with
          | some fault =>
            rw [RunM.bind_of_error (RunM.report_of_cut hwrite)]
            exact .outcome hheader hsettled hblock
          | none =>
            rw [RunM.bind_of_ok (RunM.report_of_written hwrite)]
            exact .settled hsettled hblock

end Harness

end GoldenFiles
