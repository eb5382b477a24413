import GoldenFiles.Proofs.Run.Interruption

/-!
# Reports that are cut

A sink without room for a whole report takes its beginning, up to the byte, and the run ends there.
What a run does until then does not depend on the room, so that the report is cut and nothing else
changes. It is shown for single steps first, on any world, and for sequences of steps from there.

## Main definitions

* `World.withRoom` — the same world with another limit of its sink
* `RunM.result` — how a step ends, without what it leaves behind
* `RunM.Cut` — what becomes of a step on a sink with a limit
* `RunM.CutsAtByte` — a step of which the room does nothing but cut the report

## Main results

* `RunM.CutsAtByte.bind` — sequences of steps
* `Harness.cutsAtByte_run` — whole runs, on any world
* `Harness.run_fullSink` — a run into a sink with a limit, from a run into a sink without
-/

namespace GoldenFiles

/-- The same world with another limit of its sink. -/
def World.withRoom {State : Type} (world : World State) (room : Option Nat) : World State :=
  { world with sink := { world.sink with room := room } }

@[simp] theorem World.files_withRoom {State : Type} (world : World State) (room : Option Nat) :
    (world.withRoom room).files = world.files := rfl

namespace RunM

variable {State α β : Type} {step : RunM State α} {next : α → RunM State β} {room : Nat}
  {world : World State} {before : Bytes}

/-- How a step ends, without what it leaves behind. -/
def result : EStateM.Result HarnessError (World State) α → Except HarnessError α
  | .ok value _ => .ok value
  | .error error _ => .error error

/-! ### What becomes of a step -/

/-- How a step ends on a sink without a limit and on one with so much room, when so much has been
written before. If there is room for what the step writes, it ends in the same way; otherwise what
fits is written and the run ends. -/
inductive Cut (before : Bytes) (room : Nat) :
    EStateM.Result HarnessError (World State) α → EStateM.Result HarnessError (World State) α → Prop
  | ok {value : α} {left : World State} {added : Bytes} (hroom : left.sink.room = none)
      (hwritten : left.sink.written = before ++ added) (hfits : added.length ≤ room) :
      Cut before room (.ok value left) (.ok value (left.withRoom (some (room - added.length))))
  | error {error : HarnessError} {left : World State} {added : Bytes}
    (hroom : left.sink.room = none)
      (hwritten : left.sink.written = before ++ added) (hfits : added.length ≤ room) :
      Cut before room (.error error left)
        (.error error (left.withRoom (some (room - added.length))))
  | full {whole : EStateM.Result HarnessError (World State) α} {left : World State} {added : Bytes}
      (hroom : (after whole).sink.room = none)
      (hwhole : (after whole).sink.written = before ++ added) (hlong : room < added.length)
      (hwritten : left.sink.written = before ++ added.take room) :
      Cut before room whole (.error (.output .sinkFull) left)

/-- Of a step, the room of the sink does nothing but cut the report. -/
def CutsAtByte (step : RunM State α) : Prop :=
  ∀ (world : World State) (room : Nat), world.sink.room = none →
    Cut world.sink.written room (step world) (step (world.withRoom (some room)))

namespace Cut

variable {whole cut : EStateM.Result HarnessError (World State) α} {earlier : Bytes}

/-- Without a limit, a step adds to the report, and there is no limit behind it. -/
theorem exists_added (h : Cut before room whole cut) :
    (after whole).sink.room = none ∧ ∃ added, (after whole).sink.written = before ++ added := by
  cases h with
  | ok hroom hwritten _ => exact ⟨hroom, _, hwritten⟩
  | error hroom hwritten _ => exact ⟨hroom, _, hwritten⟩
  | full hroom hwhole _ _ => exact ⟨hroom, _, hwhole⟩

/-- What becomes of a step is the same with some of the report before it and less room. -/
theorem behind (hfits : earlier.length ≤ room)
    (h : Cut (before ++ earlier) (room - earlier.length) whole cut) :
    Cut before room whole cut := by
  cases h with
  | @ok value left added hroom hwritten hmore =>
    rw [Nat.sub_sub, ← List.length_append]
    refine .ok hroom (hwritten.trans (List.append_assoc _ _ _)) ?_
    rw [List.length_append]
    omega
  | @error error left added hroom hwritten hmore =>
    rw [Nat.sub_sub, ← List.length_append]
    refine .error hroom (hwritten.trans (List.append_assoc _ _ _)) ?_
    rw [List.length_append]
    omega
  | @full _ left added hroom hwhole hlong hwritten =>
    refine .full hroom (hwhole.trans (List.append_assoc _ _ _)) ?_ ?_
    · rw [List.length_append]
      omega
    · rw [hwritten, List.append_assoc, List.take_append, List.take_of_length_le hfits]

/-- What becomes of a step, said of its report and of its end. -/
theorem result_eq (h : Cut before room whole cut) :
    ∃ added, (after whole).sink.written = before ++ added ∧
      (after cut).sink.written = before ++ added.take room ∧
      result cut = if added.length ≤ room then result whole else .error (.output .sinkFull) := by
  cases h with
  | @ok value left added _ hwritten hfits =>
    refine ⟨added, hwritten, ?_, (if_pos hfits).symm⟩
    rw [List.take_of_length_le hfits]
    exact hwritten
  | @error error left added _ hwritten hfits =>
    refine ⟨added, hwritten, ?_, (if_pos hfits).symm⟩
    rw [List.take_of_length_le hfits]
    exact hwritten
  | @full _ left added _ hwhole hlong hwritten =>
    exact ⟨added, hwhole, hwritten, (if_neg (Nat.not_le.mpr hlong)).symm⟩

end Cut

/-! ### Steps -/

namespace CutsAtByte

/-- A report is cut at the byte. -/
theorem report (text : StyledText) : CutsAtByte (RunM.report text : RunM State Unit) := by
  intro world room hroom
  rw [report_of_unlimited hroom]
  generalize hadded : Utf8.encode (text.render world.sink.coloured) = added
  by_cases hfits : added.length ≤ room
  · have hwritten : RunM.report text (world.withRoom (some room)) =
        .ok () (World.withRoom { world with sink := world.sink.add text }
          (some (room - added.length))) := by
      simp [RunM.report, Sink.write, Sink.writeBytes, Sink.add, World.withRoom, hadded, hfits,
        List.take_of_length_le hfits]
    rw [hwritten]
    exact .ok hroom (congrArg _ hadded) hfits
  · have hcut : RunM.report text (world.withRoom (some room)) =
        .error (.output .sinkFull) { world with sink := { world.sink with
          room := some (room - added.length)
          written := world.sink.written ++ added.take room } } := by
      simp [RunM.report, Sink.write, Sink.writeBytes, World.withRoom, hadded, hfits]
    rw [hcut]
    exact .full hroom (congrArg _ hadded) (Nat.lt_of_not_le hfits) rfl

/-- A step that writes nothing, and for which the sink makes no difference. -/
theorem of_silent (hsink : ∀ world, (after (step world)).sink = world.sink)
    (hroom : ∀ world room, step (world.withRoom (some room)) =
      match step world with
      | .ok value left => .ok value (left.withRoom (some room))
      | .error error left => .error error (left.withRoom (some room))) : CutsAtByte step := by
  intro world room hnone
  have hleft : (after (step world)).sink.room = none := by rw [hsink, hnone]
  have hwritten : (after (step world)).sink.written = world.sink.written ++ [] := by
    rw [hsink, List.append_nil]
  rw [hroom]
  cases h : step world with
  | ok value left =>
    rw [h] at hleft hwritten
    exact .ok hleft hwritten (Nat.zero_le room)
  | error error left =>
    rw [h] at hleft hwritten
    exact .error hleft hwritten (Nat.zero_le room)

theorem pure (value : α) : CutsAtByte (Pure.pure value : RunM State α) :=
  of_silent (fun _ => rfl) fun _ _ => rfl

theorem bind (hstep : CutsAtByte step) (hnext : ∀ value, CutsAtByte (next value)) :
    CutsAtByte (step >>= next) := by
  intro world room hroom
  have hfirst := hstep world room hroom
  generalize hwhole : step world = whole at hfirst
  generalize hcut : step (world.withRoom (some room)) = cut at hfirst
  cases hfirst with
  | @ok value left added hleft hwritten hfits =>
    rw [bind_of_ok hwhole, bind_of_ok hcut]
    have hsecond := hnext value left (room - added.length) hleft
    rw [hwritten] at hsecond
    exact hsecond.behind hfits
  | @error error left added hleft hwritten hfits =>
    rw [bind_of_error hwhole, bind_of_error hcut]
    exact .error hleft hwritten hfits
  | @full _ left added hleft hadded hlong hwritten =>
    rw [bind_of_error hcut]
    -- Whatever the steps go on to write is behind the byte at which the report is cut.
    obtain ⟨hnone, more, hmore⟩ : (after ((step >>= next) world)).sink.room = none ∧
        ∃ more, (after ((step >>= next) world)).sink.written =
          world.sink.written ++ added ++ more := by
      cases whole with
      | error error between =>
        rw [bind_of_error hwhole]
        exact ⟨hleft, [], hadded.trans (List.append_nil _).symm⟩
      | ok value between =>
        rw [bind_of_ok hwhole, ← hadded]
        exact (hnext value between room hleft).exists_added
    refine .full hnone (hmore.trans (List.append_assoc _ _ _)) ?_ ?_
    · rw [List.length_append]
      omega
    · rw [hwritten, List.take_append_of_le_length (Nat.le_of_lt hlong)]

end CutsAtByte

end RunM

/-! ### Runs -/

namespace Harness

open RunM (CutsAtByte)

theorem cutsAtByte_runCase (harness : Harness) (case : TestCase) :
    CutsAtByte (harness.runCase case) := by
  refine .of_silent ?_ ?_
  · intro world
    rw [runCase_eq]
    cases harness.settled world.files case <;> rfl
  · intro world room
    rw [runCase_eq, runCase_eq, World.files_withRoom]
    cases harness.settled world.files case <;> rfl

theorem cutsAtByte_reportCase (harness : Harness) (labelRoot : Text) (case : TestCase) :
    CutsAtByte (harness.reportCase labelRoot case) :=
  (CutsAtByte.report _).bind fun _ => (harness.cutsAtByte_runCase case).bind fun _ =>
    (CutsAtByte.report _).bind fun _ => .pure _

theorem cutsAtByte_runCases (harness : Harness) (labelRoot : Text) (cases : List TestCase)
    (summary : Summary) : CutsAtByte (harness.runCases labelRoot cases summary) := by
  induction cases generalizing summary with
  | nil => exact .pure summary
  | cons case rest ih => exact (harness.cutsAtByte_reportCase labelRoot case).bind fun _ => ih _

/-- Whole runs are cut at the byte. -/
theorem cutsAtByte_run (harness : Harness) (labelRoot : Text) :
    CutsAtByte (harness.run labelRoot) := by
  refine CutsAtByte.bind ?_ fun cases => (harness.cutsAtByte_runCases labelRoot cases {}).bind
    fun summary => (CutsAtByte.report _).bind fun _ => .pure _
  refine .of_silent ?_ ?_
  · intro world
    cases harness.cases world.files <;> rfl
  · intro world room
    rw [World.files_withRoom]
    cases harness.cases world.files <;> rfl

/-- A sink with a limit takes of the report of a run what fits and nothing else. If all of it fits,
the run ends as it does on a sink without a limit, and otherwise with the error that the sink is
full. -/
theorem run_fullSink (harness : Harness) (labelRoot : Text) (files : FileSystem)
    (instances : List harness.pipeline.State) (room : Nat) :
    let whole := harness.run labelRoot ⟨files, {}, instances⟩
    let cut := harness.run labelRoot ⟨files, { room := some room }, instances⟩
    let report := (RunM.after whole).sink.written
    (RunM.after cut).sink.written = report.take room ∧
      RunM.result cut =
        (if report.length ≤ room then RunM.result whole else .error (.output .sinkFull)) ∧
      (HarnessError.output .sinkFull).causes = ["sink full".toList] := by
  obtain ⟨report, hwhole, hcut, hresult⟩ :=
    (harness.cutsAtByte_run labelRoot ⟨files, {}, instances⟩ room rfl).result_eq
  rw [List.nil_append] at hwhole hcut
  rw [← hwhole] at hcut hresult
  exact ⟨hcut, hresult, rfl⟩

end Harness

end GoldenFiles
