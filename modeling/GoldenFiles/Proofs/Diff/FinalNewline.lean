import GoldenFiles.Proofs.Diff.Rebuilding
import Mathlib.Algebra.GroupWithZero.Nat
import Mathlib.Data.List.TakeWhile

/-!
# Final line feeds

A text that ends in a line feed has an empty line behind it. Two such texts have that line in
common, and a rendering leaves it out if it is unchanged. It need not be: if it is the only common
line, then no line is taken to be common, and otherwise the next common line is looked for from the
front, where a blank line may come first that is not the last one. The empty lines at the ends are
changes then.

## Main definitions

* `StandsFor` — a rendering stands for all lines of two texts
* `behind` — what follows the foremost place of given lines
* `FinalEmptyMatched` — the empty lines at the ends of two texts are found to be the same line

## Main results

* `merge_cons_common` — the tagged lines up to a common line
* `getLast?_merge_iff` — when the last lines of two lists are found to be the same
* `Elides.length_sideLines` — a rendering tells how many lines it stands for
* `lineDiffer_finalEmpty` — for which texts a rendering stands without the empty lines at their ends
-/

namespace GoldenFiles.Diff

variable {line : Text} {lines others common front : List Text} {tagged : List TaggedLine}
  {body : List DiffLine}

/-! ### Lines for which a rendering stands -/

/-- The lines of a rendering stand for the lines of two texts: the removed lines and the unchanged
ones are those of the first text, and the added lines and the unchanged ones those of the second.
Unchanged lines may be left out, if they are counted. -/
def StandsFor (body : List DiffLine) (lines others : List Text) : Prop :=
  ∃ tagged, Elides body tagged ∧ sideLines .added tagged = lines ∧
    sideLines .removed tagged = others

/-- How many lines of a text a line of a rendering stands for. -/
def DiffLine.count (foreign : Tag) : DiffLine → Nat
  | .shown line => if line.tag = foreign then 0 else 1
  | .elided count => count

/-- A rendering tells how many lines it stands for. -/
theorem Elides.length_sideLines {foreign : Tag} (hforeign : foreign ≠ .same)
    (h : Elides body tagged) :
    (sideLines foreign tagged).length = (body.map (DiffLine.count foreign)).sum := by
  induction h with
  | nil => rfl
  | shown line _ ih =>
    rw [sideLines_cons, List.map_cons, List.sum_cons, ← ih, DiffLine.count]
    split
    · rw [Nat.zero_add]
    · rw [List.length_cons, Nat.add_comm]
  | elided hsame _ ih =>
    rw [sideLines_append, sideLines_of_same hforeign hsame, List.length_append, List.length_map,
      List.map_cons, List.sum_cons, ← ih, DiffLine.count]

/-- A rendering that stands for all lines of a text does not stand for all but the last one. -/
theorem StandsFor.not_dropLast (h : StandsFor body lines others) (hne : lines ≠ []) :
    ¬ StandsFor body lines.dropLast others.dropLast := by
  rintro ⟨tagged, helides, hlines, -⟩
  obtain ⟨whole, hwhole, hall, -⟩ := h
  have hlength := hwhole.length_sideLines (show Tag.added ≠ .same by decide)
  rw [← helides.length_sideLines (by decide), hlines, hall, List.length_dropLast] at hlength
  have hpos := List.length_pos_of_ne_nil hne
  omega

/-! ### Lines in front of a common line -/

/-- What follows the first occurrence of a line. -/
def past (line : Text) (lines : List Text) : List Text := (lines.dropWhile (· ≠ line)).tail

/-- What follows the foremost place at which some lines are found, one after the other. -/
def behind : List Text → List Text → List Text
  | [], lines => lines
  | line :: rest, lines => behind rest (past line lines)

theorem differs_cons (line : Text) (common : List Text) :
    differs (line :: common) = fun other => decide (other ≠ line) := by
  funext other
  simp [differs, eq_comm]

theorem dropWhile_eq_cons_past (h : line ∈ lines) :
    lines.dropWhile (· ≠ line) = line :: past line lines := by
  induction lines with
  | nil => cases h
  | cons first rest ih =>
    by_cases heq : first = line
    · simp [past, heq]
    · have hrest : line ∈ rest := (List.mem_cons.mp h).resolve_left fun hline => heq hline.symm
      simpa [past, heq] using ih hrest

theorem takeWhile_append_past (h : line ∈ lines) :
    lines.takeWhile (· ≠ line) ++ line :: past line lines = lines := by
  rw [← dropWhile_eq_cons_past h, List.takeWhile_append_dropWhile]

theorem sublist_past (h : (line :: common).Sublist lines) : common.Sublist (past line lines) := by
  have hdrop := sublist_dropWhile_differs h
  rw [differs_cons] at hdrop
  exact hdrop.tail

/-- Nothing follows the first occurrence of a line that occurs at the end only. -/
theorem past_eq_nil_iff (hlast : lines.getLast? = some line) :
    past line lines = [] ↔ line ∉ lines.dropLast := by
  have hsplit := takeWhile_append_past (List.mem_of_getLast? hlast)
  constructor
  · intro hnil hmem
    rw [hnil] at hsplit
    rw [← hsplit, List.dropLast_concat] at hmem
    simpa using List.mem_takeWhile_imp hmem
  · intro hmem
    by_contra hne
    rw [← hsplit, List.dropLast_append_of_ne_nil (List.cons_ne_nil _ _),
      List.dropLast_cons_of_ne_nil hne] at hmem
    exact hmem (List.mem_append_right _ List.mem_cons_self)

/-! ### The last common line -/

theorem merge_nil_common (lines others : List Text) :
    merge lines others [] = lines.map (⟨.removed, ·⟩) ++ others.map (⟨.added, ·⟩) := by
  induction lines with
  | nil =>
    induction others with
    | nil => rw [merge]; rfl
    | cons other rest ih =>
      rw [merge, if_neg (by simp), ih]
      rfl
  | cons line rest ih =>
    rw [merge_cons_of_differs others (by simp [differs]), ih]
    rfl

/-- Up to a common line, the lines of the first text are removed and those of the second are added.
-/
theorem merge_cons_common (hline : line ∈ lines) (hother : line ∈ others) :
    merge lines others (line :: common) =
      ((lines.takeWhile (· ≠ line)).map (⟨.removed, ·⟩) ++
        (others.takeWhile (· ≠ line)).map (⟨.added, ·⟩)) ++
        ⟨.same, line⟩ :: merge (past line lines) (past line others) common := by
  have hremoved := MergeState.tagged_pastRemoved ⟨lines, others, line :: common⟩
  rw [MergeState.tagged_pastAdded (MergeState.removedLines_pastRemoved _)] at hremoved
  simp only [MergeState.tagged, MergeState.removedLines, MergeState.addedLines,
    MergeState.pastRemoved, MergeState.pastAdded, differs_cons, dropWhile_eq_cons_past hline,
    dropWhile_eq_cons_past hother] at hremoved
  rw [hremoved, List.append_assoc, merge, if_pos List.head?_cons, if_pos rfl, List.tail_cons]

theorem merge_ne_nil (hleft : common.Sublist lines) (hright : common.Sublist others)
    (hne : common ≠ []) : merge lines others common ≠ [] := by
  intro hnil
  have hlines := (sideLines_merge hleft hright).1
  rw [hnil, sideLines_nil] at hlines
  rw [← hlines] at hleft
  exact hne (List.sublist_nil.mp hleft)

theorem getLast?_past (h : line ∈ lines) (hne : past line lines ≠ []) :
    (past line lines).getLast? = lines.getLast? := by
  nth_rewrite 2 [← takeWhile_append_past h]
  rw [List.getLast?_append_of_ne_nil _ (List.cons_ne_nil _ _), List.getLast?_cons_of_ne_nil hne]

/-- The tagged lines of two lists that end in the last common line end in it, unless either list has
it elsewhere behind the other common lines. -/
theorem getLast?_merge_iff (hleft : (front ++ [line]).Sublist lines)
    (hright : (front ++ [line]).Sublist others) (hlines : lines.getLast? = some line)
    (hothers : others.getLast? = some line) :
    (merge lines others (front ++ [line])).getLast? = some ⟨.same, line⟩ ↔
      line ∉ (behind front lines).dropLast ∧ line ∉ (behind front others).dropLast := by
  induction front generalizing lines others with
  | nil =>
    rw [behind, behind, ← past_eq_nil_iff hlines, ← past_eq_nil_iff hothers, List.nil_append,
      merge_cons_common (List.mem_of_getLast? hlines) (List.mem_of_getLast? hothers),
      merge_nil_common, List.getLast?_append_of_ne_nil _ (List.cons_ne_nil _ _)]
    constructor
    · intro hlast
      by_contra hrest
      rw [List.getLast?_cons_of_ne_nil (by simpa using hrest)] at hlast
      simpa using List.mem_of_getLast? hlast
    · rintro ⟨hnil, hnil'⟩
      simp [hnil, hnil']
  | cons next front ih =>
    have hmem : next ∈ lines := hleft.subset List.mem_cons_self
    have hmem' : next ∈ others := hright.subset List.mem_cons_self
    have hpast : (front ++ [line]).Sublist (past next lines) := sublist_past hleft
    have hpast' : (front ++ [line]).Sublist (past next others) := sublist_past hright
    have hne : past next lines ≠ [] := List.ne_nil_of_mem (hpast.subset List.mem_concat_self)
    have hne' : past next others ≠ [] := List.ne_nil_of_mem (hpast'.subset List.mem_concat_self)
    rw [behind, behind, List.cons_append, merge_cons_common hmem hmem',
      List.getLast?_append_of_ne_nil _ (List.cons_ne_nil _ _),
      List.getLast?_cons_of_ne_nil (merge_ne_nil hpast hpast' (by simp))]
    exact ih hpast hpast' ((getLast?_past hmem hne).trans hlines)
      ((getLast?_past hmem' hne').trans hothers)

/-! ### Texts that end in line feeds -/

variable {expected actual : Text}

/-- A text that ends in a line feed has an empty line behind the others. -/
theorem pieces_of_getLast? {text : Text} (h : text.getLast? = some '\n') :
    ∃ lines, lines ≠ [] ∧ Text.pieces text = lines ++ [[]] := by
  obtain ⟨front, rfl⟩ := List.getLast?_eq_some_iff.mp h
  refine ⟨Text.pieces front, Text.pieces_ne_nil front, ?_⟩
  rw [Text.pieces_eq_splitOn, List.splitOn_append_cons_self, ← Text.pieces_eq_splitOn]
  rfl

/-- The last lines of two lists are common if they are equal, whatever the others are. -/
theorem exists_commonLines_concat (lines others : List Text) (line : Text) :
    ∃ front, commonLines (lines ++ [line]) (others ++ [line]) = front ++ [line] := by
  rw [commonLines, List.reverse_concat, List.reverse_concat, walk, if_pos rfl]
  obtain ⟨front, hfront, -⟩ := exists_walk_eq_append
    (.ofLines (lines ++ [line]) (others ++ [line])) lines.reverse others.reverse [line]
  exact ⟨front, hfront⟩

/-- The empty lines at the ends of two texts are found to be the same line: there are other common
lines, and behind them no text has a blank line but at its end. -/
def FinalEmptyMatched (front lines others : List Text) : Prop :=
  front ≠ [] ∧ [] ∉ (behind front lines).dropLast ∧ [] ∉ (behind front others).dropLast

instance (front lines others : List Text) : Decidable (FinalEmptyMatched front lines others) :=
  inferInstanceAs (Decidable (_ ∧ _ ∧ _))

theorem visible_concat (hne : lines ≠ []) (line : Text) :
    visible (lines ++ [line]) = lines ++ [line] := by
  rw [visible, if_neg]
  intro heq
  exact hne (List.append_eq_singleton_iff.mp heq |>.resolve_right (by simp) |>.1)

/-- The comparison of two texts that end in line feeds ends in an unchanged empty line if the empty
lines at their ends are found to be the same. -/
theorem getLast?_taggedLines_iff (hexpected : expected.getLast? = some '\n')
    (hactual : actual.getLast? = some '\n')
    (hfront : commonLines (Text.pieces expected) (Text.pieces actual) = front ++ [[]]) :
    (taggedLines expected actual).getLast? = some ⟨.same, []⟩ ↔
      FinalEmptyMatched front (Text.pieces expected) (Text.pieces actual) := by
  obtain ⟨lines, hlines, hpieces⟩ := pieces_of_getLast? hexpected
  obtain ⟨others, hothers, hpieces'⟩ := pieces_of_getLast? hactual
  obtain ⟨hleft, hright⟩ := commonLines_sublist (Text.pieces expected) (Text.pieces actual)
  rw [hfront] at hleft hright
  rw [taggedLines, hfront, FinalEmptyMatched]
  rw [hpieces] at hleft ⊢
  rw [hpieces'] at hright ⊢
  rw [visible_concat hlines, visible_concat hothers]
  by_cases hnil : front = []
  · subst hnil
    rw [List.nil_append, visible, if_pos rfl, merge_nil_common]
    refine iff_of_false (fun hlast => ?_) (fun h => h.1 rfl)
    simpa using List.mem_of_getLast? hlast
  · rw [visible_concat hnil, getLast?_merge_iff hleft hright List.getLast?_concat
      List.getLast?_concat]
    exact (and_iff_right hnil).symm

theorem standsFor_bodyLines (context : Nat)
    (h : (taggedLines expected actual).getLast? ≠ some ⟨.same, []⟩) :
    StandsFor (bodyLines context expected actual) (visible (Text.pieces expected))
      (visible (Text.pieces actual)) := by
  obtain ⟨hlines, hothers⟩ := sideLines_taggedLines expected actual
  refine ⟨taggedLines expected actual, ?_, hlines, hothers⟩
  rw [bodyLines, withoutFinalEmpty, if_neg h]
  exact elides_elide context _

theorem standsFor_bodyLines_dropLast (context : Nat)
    (h : (taggedLines expected actual).getLast? = some ⟨.same, []⟩) :
    StandsFor (bodyLines context expected actual) (visible (Text.pieces expected)).dropLast
      (visible (Text.pieces actual)).dropLast := by
  obtain ⟨hlines, hothers⟩ := sideLines_taggedLines expected actual
  obtain ⟨tagged, htagged⟩ := List.getLast?_eq_some_iff.mp h
  rw [htagged, sideLines_append] at hlines hothers
  rw [← hlines, ← hothers]
  refine ⟨tagged, ?_, List.dropLast_concat.symm, List.dropLast_concat.symm⟩
  rw [bodyLines, withoutFinalEmpty, if_pos h, htagged, List.dropLast_concat]
  exact elides_elide context _

/-- The rendering of two texts that end in line feeds stands for their lines without the empty ones
at their ends exactly if these are found to be the same line. Otherwise it stands for all of their
lines, so that the empty lines at the ends are shown as changes. -/
theorem lineDiffer_finalEmpty (context : Nat) (label : Text) (hne : expected ≠ actual)
    (hexpected : expected.getLast? = some '\n') (hactual : actual.getLast? = some '\n') :
    ∃ front rendering,
      commonLines (Text.pieces expected) (Text.pieces actual) = front ++ [[]] ∧
      lineDiffer context label expected actual = some rendering ∧
      (StandsFor (readBody label rendering) (Text.pieces expected).dropLast
          (Text.pieces actual).dropLast ↔
        FinalEmptyMatched front (Text.pieces expected) (Text.pieces actual)) ∧
      (StandsFor (readBody label rendering) (Text.pieces expected) (Text.pieces actual) ↔
        ¬ FinalEmptyMatched front (Text.pieces expected) (Text.pieces actual)) := by
  obtain ⟨lines, hlines, hpieces⟩ := pieces_of_getLast? hexpected
  obtain ⟨others, hothers, hpieces'⟩ := pieces_of_getLast? hactual
  have hvisible : visible (Text.pieces expected) = Text.pieces expected := by
    rw [hpieces, visible_concat hlines]
  have hvisible' : visible (Text.pieces actual) = Text.pieces actual := by
    rw [hpieces', visible_concat hothers]
  obtain ⟨front, hfront⟩ := exists_commonLines_concat lines others []
  rw [← hpieces, ← hpieces'] at hfront
  refine ⟨front, render context label expected actual, hfront, ?_, ?_⟩
  · rw [lineDiffer_eq, if_neg hne]
  rw [readBody_render, ← getLast?_taggedLines_iff hexpected hactual hfront]
  by_cases hlast : (taggedLines expected actual).getLast? = some ⟨.same, []⟩
  · have hstands := standsFor_bodyLines_dropLast context hlast
    rw [hvisible, hvisible'] at hstands
    refine ⟨iff_of_true hstands hlast, iff_of_false (fun hall => ?_) (not_not_intro hlast)⟩
    exact hall.not_dropLast (Text.pieces_ne_nil expected) hstands
  · have hstands := standsFor_bodyLines context hlast
    rw [hvisible, hvisible'] at hstands
    refine ⟨iff_of_false ?_ hlast, iff_of_true hstands hlast⟩
    exact hstands.not_dropLast (Text.pieces_ne_nil expected)

/-- A blank line in front of the end is taken for the empty line there. -/
theorem lineDiffer_finalEmpty_blankLine :
    "a\n\n".toList ≠ "a\nb\n".toList ∧ "a\n\n".toList.getLast? = some '\n' ∧
      "a\nb\n".toList.getLast? = some '\n' ∧
      lineDiffer defaultContext "f".toList "a\n\n".toList "a\nb\n".toList =
        some "--- expected f\n+++ actual f\n a\n+b\n \n-".toList ∧
      StandsFor (readBody "f".toList "--- expected f\n+++ actual f\n a\n+b\n \n-".toList)
        [['a'], [], []] [['a'], ['b'], []] := by
  have hne : "a\n\n".toList ≠ "a\nb\n".toList := by decide
  have hrendered : lineDiffer defaultContext "f".toList "a\n\n".toList "a\nb\n".toList =
      some "--- expected f\n+++ actual f\n a\n+b\n \n-".toList := by decide +kernel
  refine ⟨hne, rfl, rfl, hrendered, ?_⟩
  obtain ⟨front, rendering, hcommon, hsome, -, hall⟩ :=
    lineDiffer_finalEmpty defaultContext "f".toList hne rfl rfl
  have hlines : commonLines (Text.pieces "a\n\n".toList) (Text.pieces "a\nb\n".toList) =
      [['a']] ++ [[]] := by decide +kernel
  obtain rfl : front = [['a']] := List.append_cancel_right (hcommon.symm.trans hlines)
  obtain rfl := Option.some.inj (hsome.symm.trans hrendered)
  exact hall.mpr (by decide)

/-- The line feeds at the ends show up as changes where the texts have nothing else in common. -/
theorem not_forall_standsFor_dropLast :
    ¬ ∀ (context : Nat) (label expected actual : Text), expected ≠ actual →
      expected.getLast? = some '\n' → actual.getLast? = some '\n' →
      ∃ rendering, lineDiffer context label expected actual = some rendering ∧
        StandsFor (readBody label rendering) (Text.pieces expected).dropLast
          (Text.pieces actual).dropLast := by
  intro hall
  obtain ⟨rendering, hsome, hstands⟩ :=
    hall defaultContext "f".toList "a\n".toList "b\n".toList (by decide) rfl rfl
  have hrendered : lineDiffer defaultContext "f".toList "a\n".toList "b\n".toList =
      some "--- expected f\n+++ actual f\n-a\n-\n+b\n+".toList := by decide +kernel
  obtain rfl := Option.some.inj (hsome.symm.trans hrendered)
  obtain ⟨tagged, helides, hlines, -⟩ := hstands
  have hlength := helides.length_sideLines (show Tag.added ≠ .same by decide)
  rw [hlines] at hlength
  revert hlength
  decide

end GoldenFiles.Diff
