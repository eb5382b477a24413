import GoldenFiles.Diff.Rendering
import GoldenFiles.Fixture
import GoldenFiles.Proofs.Text.Lines

/-!
# When texts agree

The line differ finds texts to agree exactly if they are equal: the walk through the table never
collects a line that one of the texts lacks, so that texts with no other lines are equal. A
rendering is never empty.

## Main results

* `commonLines_sublist` — common lines are lines of both texts
* `lineDiffer_eq` — the differ is silent on equal texts and renders all others
* `compareTexts_lineDiffer` — a fixture and an output agree if they are equal up to line endings
-/

namespace GoldenFiles.Diff

variable {lines others : List Text}

/-- What the walk adds to the lines it has found are lines of both lists, in their order. -/
theorem exists_walk_eq_append (table : LengthTable) (lines others found : List Text) :
    ∃ common, walk table lines others found = common ++ found ∧
      common.Sublist lines.reverse ∧ common.Sublist others.reverse := by
  -- Both texts are walked from their ends, so what is found last comes first.
  fun_induction walk table lines others found with
  | case1 found line lines others ih =>
    obtain ⟨common, heq, hleft, hright⟩ := ih
    refine ⟨common ++ [line], by simp [heq], ?_, ?_⟩
    · rw [List.reverse_cons]
      exact hleft.append_right [line]
    · rw [List.reverse_cons]
      exact hright.append_right [line]
  | case2 found => exact ⟨[], rfl, List.nil_sublist _, List.nil_sublist _⟩
  | case3 found line lines other others _ _ _ ih =>
    obtain ⟨common, heq, hleft, hright⟩ := ih
    refine ⟨common, heq, hleft, ?_⟩
    rw [List.reverse_cons]
    exact hright.trans (List.sublist_append_left _ _)
  | case4 found line lines other others _ _ _ ih =>
    obtain ⟨common, heq, hleft, hright⟩ := ih
    refine ⟨common, heq, ?_, hright⟩
    rw [List.reverse_cons]
    exact hleft.trans (List.sublist_append_left _ _)
  | case5 => exact ⟨[], rfl, List.nil_sublist _, List.nil_sublist _⟩

/-- Common lines are lines of both texts, in their order. -/
theorem commonLines_sublist (lines others : List Text) :
    (commonLines lines others).Sublist lines ∧ (commonLines lines others).Sublist others := by
  obtain ⟨common, heq, hleft, hright⟩ :=
    exists_walk_eq_append (.ofLines lines others) lines.reverse others.reverse []
  rw [List.append_nil] at heq
  rw [List.reverse_reverse] at hleft hright
  rw [commonLines, heq]
  exact ⟨hleft, hright⟩

/-- Lists with no lines that are not common are equal. -/
theorem eq_of_distance_eq_zero (h : distance lines others = 0) : lines = others := by
  obtain ⟨hleft, hright⟩ := commonLines_sublist lines others
  have hlengthLeft := hleft.length_le
  have hlengthRight := hright.length_le
  unfold distance at h
  have hlines : commonLines lines others = lines := hleft.eq_of_length (by omega)
  have hothers : commonLines lines others = others := hright.eq_of_length (by omega)
  exact hlines.symm.trans hothers

/-- The differ is silent on equal texts and renders all others. -/
theorem lineDiffer_eq (context : Nat) (label expected actual : Text) :
    lineDiffer context label expected actual =
      if expected = actual then none else some (render context label expected actual) := by
  unfold lineDiffer
  by_cases h : expected = actual
  · rw [if_pos h, if_pos h]
  · have hdistance : distance (Text.pieces expected) (Text.pieces actual) ≠ 0 := fun hzero =>
      h (Text.pieces_injective (eq_of_distance_eq_zero hzero))
    rw [if_neg h, if_neg h, if_neg hdistance]

theorem render_ne_nil (context : Nat) (label expected actual : Text) :
    render context label expected actual ≠ [] := by
  simp [render, headerLines, Text.unpieces, List.intercalate]

/-- A fixture and an output agree exactly if they are equal up to line endings. -/
theorem compareTexts_lineDiffer (context : Nat) (label expected actual : Text) :
    compareTexts (lineDiffer context) label expected actual =
      if expected.normalize = actual.normalize then .pass
      else .fail (.diff (render context label expected.normalize actual.normalize)) := by
  unfold compareTexts
  rw [lineDiffer_eq]
  by_cases h : expected.normalize = actual.normalize
  · simp [h]
  · simp [h, render_ne_nil]

end GoldenFiles.Diff
