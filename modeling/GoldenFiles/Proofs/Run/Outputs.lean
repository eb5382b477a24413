import GoldenFiles.Proofs.Diagnostic
import GoldenFiles.Proofs.Run.LineEndings
import Mathlib.Data.List.Basic

/-!
# Comments behind printed text

What a pipeline prints is written as it is, and comments are put behind it. Nothing asks of a
pipeline that what it prints ends in a line feed. Where it does not, and there is something to
comment on, the first comment goes on with the last printed line; all comments behind that are lines
of their own.

## Main results

* `linesOf_renderOutput_cons` — the lines of a printed text with comments behind it
* `linesOf_renderOutput` — the printed texts behind which all comments are lines of their own
* `not_forall_linesOf_renderOutput` — a case whose comment is on a line of the program
-/

namespace GoldenFiles

variable {printed marker last : Text} {front : List Text} {found : List Diagnostic} {d : Diagnostic}

/-- The first comment goes on with what stands behind the last line feed, the others are lines. -/
theorem linesOf_renderOutput_cons (hmarker : '\n' ∉ marker) (hd : '\n' ∉ d.text)
    (hfound : ∀ d ∈ found, '\n' ∉ d.text) (hprinted : Text.pieces printed = front ++ [last]) :
    Text.linesOf (renderOutput printed (d :: found) marker) =
      front ++ (last ++ (marker ++ ' ' :: d.text)) ::
        found.map fun d => marker ++ ' ' :: d.text := by
  have hcomments : Text.pieces ((d :: found).flatMap (commentLine marker)) =
      (marker ++ ' ' :: d.text) :: ((found.map fun d => marker ++ ' ' :: d.text) ++ [[]]) :=
    pieces_commentLines hmarker (List.forall_mem_cons.mpr ⟨hd, hfound⟩)
  have hpieces := Text.pieces_append hprinted hcomments
  rw [← List.cons_append, ← List.append_assoc] at hpieces
  exact (Text.linesOf_of_pieces hpieces).trans (if_pos rfl)

/-- All comments are lines of their own, behind those of the printed text, exactly if there are none
or the printed text is empty or ends in a line feed. Otherwise the last line of the printed text
goes on with the first comment. This is what cases come out as, for every pipeline: what it prints
and what it has found are written in this way, behind its own marker. -/
theorem linesOf_renderOutput (hmarker : '\n' ∉ marker) (hfound : ∀ d ∈ found, '\n' ∉ d.text) :
    (Text.linesOf (renderOutput printed found marker) =
        Text.linesOf printed ++ found.map (fun d => marker ++ ' ' :: d.text) ↔
      found = [] ∨ printed = [] ∨ printed.getLast? = some '\n') ∧
    (∀ d rest, found = d :: rest → ¬ (printed = [] ∨ printed.getLast? = some '\n') →
      ∃ front last, last ≠ [] ∧ Text.linesOf printed = front ++ [last] ∧
        Text.linesOf (renderOutput printed found marker) =
          front ++ (last ++ (marker ++ ' ' :: d.text)) ::
            rest.map fun d => marker ++ ' ' :: d.text) ∧
    ∀ (p : Pipeline) (fs : FileSystem) (state : p.State) (case : TestCase) (source : Text),
      fs.fileText case.source = .ok source →
        let given := p.parse state (Text.normalize source) case.fileName
        caseOutput p fs state case = .ok
          (renderOutput (p.serialize given.2 given.1.program) given.1.diagnostics
            (p.lineComment given.2), given.2) := by
  obtain ⟨front, last, hprinted⟩ := Text.exists_pieces_eq_concat printed
  have hlast : last = [] ↔ printed = [] ∨ printed.getLast? = some '\n' := by
    rw [← Text.getLast?_pieces_iff, hprinted, List.getLast?_concat, Option.some_inj]
  have hlines := Text.linesOf_of_pieces hprinted
  refine ⟨?_, ?_, fun p fs state case source => caseOutput_of_fileText state⟩
  · rw [← hlast]
    cases found with
    | nil => simp [renderOutput]
    | cons d rest =>
      obtain ⟨hd, hrest⟩ := List.forall_mem_cons.mp hfound
      rw [linesOf_renderOutput_cons hmarker hd hrest hprinted, hlines]
      by_cases hnil : last = []
      · simp [hnil]
      · simp only [hnil, or_false, reduceCtorEq, if_false, iff_false]
        intro h
        have hlength := congrArg List.length h
        simp at hlength
  · rintro d rest rfl hbreak
    obtain ⟨hd, hrest⟩ := List.forall_mem_cons.mp hfound
    have hnil : last ≠ [] := mt hlast.mp hbreak
    exact ⟨front, last, hnil, by rw [hlines, if_neg hnil],
      linesOf_renderOutput_cons hmarker hd hrest hprinted⟩

namespace Harness

/-- A pipeline that gives sources back as they are and finds fault with their last character. -/
def grumbling : Pipeline where
  State := Unit
  Program := Text
  initial := ()
  parse := fun state source filename =>
    (⟨source, [⟨.error, "bang".toList, filename, 1, source.length⟩]⟩, state)
  serialize := fun _ program => program

/-- Two comments behind a line that is not ended, and the same two behind one that is. -/
theorem linesOf_renderOutput_openLine :
    let marker := "//".toList
    let found : List Diagnostic :=
      [⟨.error, "a\nb".toList, "e.s".toList, 1, 1⟩, ⟨.warning, [], "e.s".toList, 2, 1⟩]
    '\n' ∉ marker ∧ (∀ d ∈ found, '\n' ∉ d.text) ∧
      Text.linesOf (renderOutput "x\ny".toList found marker) =
        ["x".toList, "y// ERROR: a b in e.s(1,1)".toList, "// WARNING:  in e.s(2,1)".toList] ∧
      Text.linesOf (renderOutput "x\ny\n".toList found marker) =
        ["x".toList, "y".toList, "// ERROR: a b in e.s(1,1)".toList,
          "// WARNING:  in e.s(2,1)".toList] := by
  intro marker found
  have hmarker : '\n' ∉ marker := by decide
  have hfound : ∀ d ∈ found, '\n' ∉ d.text := by
    intro d hd
    have hname : '\n' ∉ d.filename := by
      rcases List.mem_pair.mp hd with rfl | rfl <;> decide
    exact d.lineFeed_notMem_text hname
  obtain ⟨-, hopen, -⟩ := @linesOf_renderOutput "x\ny".toList marker found hmarker hfound
  obtain ⟨front, last, -, hlines, houtput⟩ := hopen _ _ rfl (by decide)
  have hfront : ["x".toList] ++ ["y".toList] = front ++ [last] := hlines
  obtain ⟨rfl, hlast⟩ := List.append_inj' hfront rfl
  cases hlast
  have hended := (@linesOf_renderOutput "x\ny\n".toList marker found hmarker hfound).1.mpr
    (.inr (.inr (by decide)))
  exact ⟨hmarker, hfound, houtput, hended⟩

/-- A comment about a source whose last line is not ended is on that line. -/
theorem not_forall_linesOf_renderOutput :
    ¬ (∀ (printed marker : Text) (found : List Diagnostic), '\n' ∉ marker →
        (∀ d ∈ found, '\n' ∉ d.text) →
          Text.linesOf (renderOutput printed found marker) =
            Text.linesOf printed ++ found.map fun d => marker ++ ' ' :: d.text) ∧
    caseOutput grumbling (holding "a!".toList) () (caseOf "e") =
      .ok ("a!// ERROR: bang in e.s(1,2)\n".toList, ()) := by
  refine ⟨fun h => ?_, caseOutput_of_fileText (p := grumbling) () (fileText_holding _).1⟩
  have hd : ∀ d ∈ [Diagnostic.mk .error "bang".toList "e.s".toList 1 2], '\n' ∉ d.text := by
    decide
  exact absurd (h "a!".toList "//".toList _ (by decide) hd) (by decide)

end Harness

end GoldenFiles
