import GoldenFiles.Proofs.Run.Steps
import GoldenFiles.Proofs.Text.ConsoleLines
import Mathlib.Data.List.Basic

/-!
# What a terminal shows of a report

On a coloured sink, a report is written with escape sequences between its characters. A terminal
takes the sequences for itself and shows the characters; what it shows is the report as it is
written without colours, and every piece that sets a colour resets it behind its text.

## Main definitions

* `Signal`, `Text.signals` — characters and escape sequences, as a terminal reads them
* `Text.withoutSequences`, `Text.sequences` — what is shown, and what is not
* `Report.Step`, `Report.perform` — what is reported in turn

## Main results

* `StyledText.signals_render` — a terminal reads the pieces as they were meant
* `Report.colour_only` — colours change nothing but colours, and are reset after every step
-/

namespace GoldenFiles

/-! ### What a terminal reads -/

/-- What a terminal reads: a character to show, or an escape sequence. -/
inductive Signal | shown (c : Char) | sequence (text : Text)
  deriving DecidableEq, Repr

namespace Signal

/-- The character that is shown. -/
def shown? : Signal → Option Char
  | .shown c => some c
  | .sequence _ => none

/-- The escape sequence that is not. -/
def sequence? : Signal → Option Text
  | .shown _ => none
  | .sequence text => some text

theorem filterMap_shown?_map (text : Text) : (text.map shown).filterMap shown? = text := by
  rw [List.filterMap_map]
  exact List.filterMap_some

theorem filterMap_sequence?_map (text : Text) : (text.map shown).filterMap sequence? = [] := by
  rw [List.filterMap_map]
  exact List.filterMap_eq_nil_iff.mpr fun _ _ => rfl

end Signal

/-- The character that begins escape sequences. -/
def escape : Char := '\x1b'

namespace Text

variable {text rest sequence behind : Text}

/-- The escape sequence with which a text begins, and what is behind it. It goes on to the first
`m`. -/
def sequence? : Text → Option (Text × Text)
  | '\x1b' :: '[' :: rest =>
    match rest.dropWhile (· ≠ 'm') with
    | [] => none
    | final :: behind => some ('\x1b' :: '[' :: (rest.takeWhile (· ≠ 'm') ++ [final]), behind)
  | _ => none

theorem length_le_of_sequence? {c : Char} (h : sequence? (c :: rest) = some (sequence, behind)) :
    behind.length ≤ rest.length := by
  unfold sequence? at h
  split at h
  · next parameters heq =>
    cases heq
    split at h
    · cases h
    · next final _ hparameters =>
      cases h
      have hdropped := (List.dropWhile_sublist (l := parameters) (· ≠ 'm')).length_le
      rw [hparameters, List.length_cons] at hdropped
      rw [List.length_cons]
      omega
  · cases h

theorem sequence?_of_ne {c : Char} (h : c ≠ escape) (rest : Text) :
    sequence? (c :: rest) = none := by
  unfold sequence?
  split
  · next heq =>
    cases heq
    exact absurd rfl h
  · rfl

/-- What a terminal reads from a text. -/
def signals : Text → List Signal
  | [] => []
  | c :: rest =>
    match h : sequence? (c :: rest) with
    | some (sequence, behind) =>
      have := length_le_of_sequence? h
      .sequence sequence :: signals behind
    | none => .shown c :: signals rest
  termination_by text => text.length

/-- A text without its escape sequences. -/
def withoutSequences (text : Text) : Text := (signals text).filterMap Signal.shown?

/-- The escape sequences of a text. -/
def sequences (text : Text) : List Text := (signals text).filterMap Signal.sequence?

theorem signals_of_sequence? (h : sequence? text = some (sequence, behind)) :
    signals text = .sequence sequence :: signals behind := by
  cases text with
  | nil => cases h
  | cons c rest =>
    rw [signals]
    split
    · next heq =>
      rw [h] at heq
      cases heq
      rfl
    · next heq =>
      rw [h] at heq
      cases heq

@[simp] theorem signals_nil : signals [] = [] := by
  rw [signals]

/-- Characters that begin no sequence are shown. -/
theorem signals_append (h : escape ∉ text) (rest : Text) :
    signals (text ++ rest) = text.map .shown ++ signals rest := by
  induction text with
  | nil => rfl
  | cons c text ih =>
    rw [List.mem_cons, not_or] at h
    have hnone := sequence?_of_ne (Ne.symm h.1) (text ++ rest)
    rw [List.cons_append, signals]
    split
    · next heq =>
      rw [hnone] at heq
      cases heq
    · rw [ih h.2]
      rfl

end Text

/-! ### Pieces -/

/-- What sets a colour after a reset. -/
def Colour.selection (colour : Colour) : Text := "\x1b[3".toList ++ [colour.digit, 'm']

theorem Text.signals_reset (rest : Text) :
    Text.signals (resetSequence ++ rest) = .sequence resetSequence :: Text.signals rest :=
  Text.signals_of_sequence? rfl

theorem Text.signals_selection (colour : Colour) (rest : Text) :
    Text.signals (colour.selection ++ rest) = .sequence colour.selection :: Text.signals rest := by
  apply Text.signals_of_sequence?
  cases colour <;> rfl

/-- What a terminal reads from a piece that is written with its colour. -/
def Piece.signals (piece : Piece) : List Signal :=
  match piece.colour with
  | some colour =>
    .sequence resetSequence :: .sequence colour.selection ::
      (piece.text.map .shown ++ [.sequence resetSequence])
  | none => piece.text.map .shown

namespace Piece

theorem filterMap_shown?_signals (piece : Piece) :
    piece.signals.filterMap Signal.shown? = piece.text := by
  unfold signals
  cases piece.colour with
  | none => exact Signal.filterMap_shown?_map piece.text
  | some colour =>
    simp only [List.filterMap_cons, List.filterMap_append, Signal.shown?,
      Signal.filterMap_shown?_map, List.filterMap_nil, List.append_nil]

theorem filterMap_sequence?_signals (piece : Piece) : piece.signals.filterMap Signal.sequence? =
    match piece.colour with
    | some colour => [resetSequence, colour.selection, resetSequence]
    | none => [] := by
  unfold signals
  cases piece.colour with
  | none => exact Signal.filterMap_sequence?_map piece.text
  | some colour =>
    simp only [List.filterMap_cons, List.filterMap_append, Signal.sequence?,
      Signal.filterMap_sequence?_map, List.filterMap_nil, List.nil_append]

end Piece

namespace StyledText

variable {text : StyledText}

/-- A terminal reads the pieces as they were meant, if no piece holds an escape character itself. -/
theorem signals_render (h : ∀ piece ∈ text, escape ∉ piece.text) :
    Text.signals (text.render true) = text.flatMap Piece.signals := by
  induction text with
  | nil => exact Text.signals_nil
  | cons piece rest ih =>
    obtain ⟨hpiece, hrest⟩ := List.forall_mem_cons.mp h
    have hrender : StyledText.render true (piece :: rest) =
        piece.render true ++ StyledText.render true rest := List.flatMap_cons
    rw [hrender, List.flatMap_cons, ← ih hrest, Piece.render, Piece.signals]
    cases piece.colour with
    | none => exact Text.signals_append hpiece _
    | some colour =>
      -- What sets a colour is read as two sequences, since it begins with a reset of its own.
      have hsequence : colour.sequence = resetSequence ++ colour.selection :=
        List.append_assoc _ _ _
      simp only [if_true, hsequence, List.append_assoc, Text.signals_reset, Text.signals_selection,
        Text.signals_append hpiece, List.cons_append, List.nil_append]

/-- What is shown of the pieces is what is written without colours. -/
theorem withoutSequences_render (h : ∀ piece ∈ text, escape ∉ piece.text) :
    Text.withoutSequences (text.render true) = text.render false := by
  rw [Text.withoutSequences, signals_render h, List.filterMap_flatMap, StyledText.render]
  refine List.flatMap_congr fun piece _ => ?_
  rw [Piece.filterMap_shown?_signals, Piece.render]
  cases piece.colour <;> rfl

/-- The last escape sequence of pieces is a reset. -/
theorem getLast?_sequences_render (h : ∀ piece ∈ text, escape ∉ piece.text) :
    ∀ sequence ∈ (Text.sequences (text.render true)).getLast?, sequence = resetSequence := by
  rw [Text.sequences, signals_render h, List.filterMap_flatMap]
  clear h
  induction text with
  | nil => exact fun sequence hlast => by cases hlast
  | cons piece rest ih =>
    have hpiece : ∀ sequence ∈ (piece.signals.filterMap Signal.sequence?).getLast?,
        sequence = resetSequence := by
      rw [Piece.filterMap_sequence?_signals]
      cases piece.colour with
      | none => exact fun sequence hlast => by cases hlast
      | some colour => exact fun sequence hlast => (Option.some.inj hlast).symm
    rw [List.flatMap_cons, List.getLast?_append]
    cases hrest : (rest.flatMap fun piece => piece.signals.filterMap Signal.sequence?).getLast? with
    | none => exact hpiece
    | some last =>
      rw [hrest] at ih
      exact ih

end StyledText

namespace Report

variable {labelRoot text : Text} {lines : List Text}

/-! ### Steps -/

/-- What is reported in turn: that a case starts, how one has ended, and the verdict on all. -/
inductive Step
  | started (fileName : Text)
  | ended (outcome : Outcome)
  | finished (summary : Summary)
  deriving DecidableEq, Repr

namespace Step

/-- What is reported. -/
def report (labelRoot : Text) : Step → StyledText
  | .started fileName => header labelRoot fileName
  | .ended outcome => Report.outcome outcome
  | .finished summary => banner summary

/-- The text that comes from outside. -/
def given : Step → Text
  | .started fileName => fileName
  | .ended (.fail (.diff rendering)) => rendering
  | .ended (.fail (.missingFixture path)) => path.text
  | .ended .created | .ended .pass | .finished _ => []

end Step

/-- Reports steps in turn, as long as there is room for them. -/
def perform (labelRoot : Text) : List Step → Sink → Sink × Option Fault
  | [], sink => (sink, none)
  | step :: rest, sink =>
    match sink.write (step.report labelRoot) with
    | (left, none) => perform labelRoot rest left
    | (left, some fault) => (left, some fault)

theorem perform_of_unlimited {sink : Sink} (h : sink.room = none) (steps : List Step) :
    perform labelRoot steps sink = (sink.add (steps.flatMap (Step.report labelRoot)), none) := by
  induction steps generalizing sink with
  | nil =>
    rw [List.flatMap_nil, Sink.add_nil]
    rfl
  | cons step rest ih =>
    rw [perform, Sink.write_of_unlimited h]
    dsimp only
    have hroom : (sink.add (step.report labelRoot)).room = none := h
    rw [ih hroom, Sink.add_add]
    rfl

/-! ### Escape characters in reports -/

theorem escape_notMem_line {colour : Option Colour} (h : escape ∉ text) :
    ∀ piece ∈ line colour text, escape ∉ piece.text :=
  List.forall_mem_cons.mpr ⟨h, List.forall_mem_singleton.mpr (show escape ∉ ['\n'] by decide)⟩

theorem escape_notMem_diffLines (index : Nat) (h : ∀ text ∈ lines, escape ∉ text) :
    ∀ piece ∈ diffLines index lines, escape ∉ piece.text := by
  induction lines generalizing index with
  | nil => exact List.forall_mem_nil _
  | cons text rest ih =>
    obtain ⟨htext, hrest⟩ := List.forall_mem_cons.mp h
    exact List.forall_mem_append.mpr ⟨escape_notMem_line htext, ih (index + 1) hrest⟩

theorem escape_notMem_banner (summary : Summary) :
    ∀ piece ∈ banner summary, escape ∉ piece.text := by
  unfold banner
  split
  · decide
  · have hnumber : escape ∉ Text.ofNat summary.failed := fun h =>
      absurd (Nat.isDigit_of_mem_toDigits (by decide) (by decide) h) (by decide)
    refine List.forall_mem_cons.mpr ⟨by decide, List.forall_mem_singleton.mpr ?_⟩
    rw [List.mem_append, not_or]
    exact ⟨hnumber, by decide⟩

theorem escape_notMem_status {outcome : Outcome} (h : escape ∉ (Step.ended outcome).given) :
    ∀ piece ∈ status outcome, escape ∉ piece.text := by
  cases outcome with
  | created => exact escape_notMem_line (by decide)
  | pass => exact escape_notMem_line (by decide)
  | fail failure =>
    have hfailure : ∀ piece ∈ failureLine, escape ∉ piece.text := by decide
    cases failure with
    | diff rendering =>
      have hdiff := escape_notMem_diffLines 0 fun line hline hmem =>
        h (Text.subset_of_mem_consoleLines hline hmem)
      exact List.forall_mem_append.mpr ⟨hdiff, hfailure⟩
    | missingFixture path =>
      have hpath : escape ∉ path.text := h
      refine List.forall_mem_append.mpr ⟨escape_notMem_line ?_, hfailure⟩
      rw [List.mem_append, List.mem_append, not_or, not_or]
      exact ⟨⟨by decide, hpath⟩, by decide⟩

/-- No piece of a report holds an escape character, if no text that it is given does. -/
theorem Step.escape_notMem_report (hlabel : escape ∉ labelRoot) {step : Step}
    (h : escape ∉ step.given) :
    ∀ piece ∈ step.report labelRoot, escape ∉ piece.text := by
  cases step with
  | started fileName =>
    have hname : escape ∉ fileName := h
    refine escape_notMem_line ?_
    rw [List.mem_append, List.mem_append, List.mem_cons, not_or, not_or, not_or]
    exact ⟨⟨by decide, hlabel⟩, by decide, hname⟩
  | ended outcome =>
    exact List.forall_mem_append.mpr ⟨escape_notMem_status h,
      List.forall_mem_singleton.mpr (show escape ∉ ['\n'] by decide)⟩
  | finished summary => exact escape_notMem_banner summary

/-- Colours change nothing but colours. Whatever steps are reported, without an escape character in
a text that they are given, the report that is written with colours is, without its escape
sequences, the report that is written without colours. All colour has been reset by then: the last
escape sequence, if there is one, is a reset. Since the steps are any, this is so after each of
them. -/
theorem colour_only (steps : List Step) (hlabel : escape ∉ labelRoot)
    (h : ∀ step ∈ steps, escape ∉ step.given) :
    ∃ coloured plain output,
      perform labelRoot steps { coloured := true } = (coloured, none) ∧
      perform labelRoot steps {} = (plain, none) ∧
      coloured.written = Utf8.encode output ∧
      plain.written = Utf8.encode (Text.withoutSequences output) ∧
      ∀ sequence ∈ (Text.sequences output).getLast?, sequence = "\x1b[0m".toList := by
  have hpieces : ∀ piece ∈ steps.flatMap (Step.report labelRoot), escape ∉ piece.text := by
    intro piece hpiece
    obtain ⟨step, hstep, hpiece⟩ := List.mem_flatMap.mp hpiece
    exact Step.escape_notMem_report hlabel (h step hstep) piece hpiece
  refine ⟨_, _, StyledText.render true (steps.flatMap (Step.report labelRoot)),
    perform_of_unlimited rfl steps, perform_of_unlimited rfl steps, rfl, ?_,
    StyledText.getLast?_sequences_render hpieces⟩
  rw [StyledText.withoutSequences_render hpieces]
  rfl

/-- A case that fails, reported from its start to the verdict. -/
theorem colour_only_failure :
    let steps : List Step := [.started "e.s".toList, .ended (.fail (.diff "-a\n+b".toList)),
      .finished { total := 1, failed := 1 }]
    escape ∉ "t".toList ∧ (∀ step ∈ steps, escape ∉ step.given) ∧
    ∃ coloured output, perform "t".toList steps { coloured := true } = (coloured, none) ∧
      coloured.written = Utf8.encode output ∧
      Utf8.encode (Text.withoutSequences output) =
        Utf8.encode "Testing t/e.s\n-a\n+b\ndiff ERROR\n\nERROR: 1 fixture tests failed\n".toList ∧
      ∀ sequence ∈ (Text.sequences output).getLast?, sequence = "\x1b[0m".toList := by
  intro steps
  have hlabel : escape ∉ "t".toList := by decide
  have hsteps : ∀ step ∈ steps, escape ∉ step.given := by decide
  obtain ⟨coloured, plain, output, hcoloured, hplain, hwritten, hshown, hlast⟩ :=
    colour_only steps hlabel hsteps
  have hreport : (perform "t".toList steps {}).1 = plain := congrArg Prod.fst hplain
  refine ⟨hlabel, hsteps, coloured, output, hcoloured, hwritten, ?_, hlast⟩
  rw [← hshown, ← hreport]
  simp only [steps]
  cbv

end Report

end GoldenFiles
