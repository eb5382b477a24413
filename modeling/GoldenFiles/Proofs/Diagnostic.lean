import GoldenFiles.Pipeline
import GoldenFiles.Proofs.Text.Lines
import Mathlib.Data.List.Basic

/-!
# Displayed diagnostics

A diagnostic is displayed on one line unless the name of its file breaks it: line breaks in the
message become spaces, while the name is displayed as it is. Comment lines for diagnostics that are
displayed on one line each are read back.

## Main definitions

* `Unbroken` — a text without line breaks

## Main results

* `Diagnostic.unbroken_text_iff` — a displayed diagnostic breaks where the name of its file does
* `pieces_commentLines` — comment lines are read back
* `count_lineFeed_commentLines` — the number of lines that comments take
-/

namespace GoldenFiles

/-- A text without line breaks. -/
def Unbroken (text : Text) : Prop := '\r' ∉ text ∧ '\n' ∉ text

instance (text : Text) : Decidable (Unbroken text) := inferInstanceAs (Decidable (_ ∧ _))

theorem unbroken_append {a b : Text} : Unbroken (a ++ b) ↔ Unbroken a ∧ Unbroken b := by
  simp only [Unbroken, List.mem_append, not_or]
  exact and_and_and_comm

theorem unbroken_ofNat (n : Nat) : Unbroken (Text.ofNat n) := by
  refine ⟨fun h => ?_, Text.lineFeed_notMem_ofNat n⟩
  exact absurd (Nat.isDigit_of_mem_toDigits (by decide) (by decide) h) (by decide)

/-! ### A displayed diagnostic -/

namespace Diagnostic

theorem unbroken_map_displayed (message : Text) : Unbroken (message.map displayed) := by
  refine ⟨fun h => ?_, lineFeed_notMem_map_displayed message⟩
  obtain ⟨c, -, hc⟩ := List.mem_map.mp h
  unfold displayed at hc
  split at hc
  · exact absurd hc (by decide)
  · next hbreak => exact hbreak (.inl hc)

/-- Around the name of the file there are no line breaks. -/
theorem exists_text_eq (d : Diagnostic) :
    ∃ front back, d.text = front ++ d.filename ++ back ∧ Unbroken front ∧ Unbroken back := by
  have hlabel : Unbroken d.severity.label := by cases d.severity <;> decide
  refine ⟨d.severity.label ++ ": ".toList ++ d.message.map displayed ++ " in ".toList,
    "(".toList ++ Text.ofNat d.line ++ ",".toList ++ Text.ofNat d.column ++ ")".toList, ?_, ?_, ?_⟩
  · simp [Diagnostic.text]
  · simp only [unbroken_append]
    exact ⟨⟨⟨hlabel, by decide⟩, unbroken_map_displayed d.message⟩, by decide⟩
  · simp only [unbroken_append]
    exact ⟨⟨⟨⟨by decide, unbroken_ofNat d.line⟩, by decide⟩, unbroken_ofNat d.column⟩, by decide⟩

/-- A displayed diagnostic breaks where the name of its file does, and nowhere else. -/
theorem unbroken_text_iff (d : Diagnostic) : Unbroken d.text ↔ Unbroken d.filename := by
  obtain ⟨front, back, htext, hfront, hback⟩ := d.exists_text_eq
  rw [htext, unbroken_append, unbroken_append, and_iff_left hback, and_iff_right hfront]

theorem count_lineFeed_text (d : Diagnostic) : d.text.count '\n' = d.filename.count '\n' := by
  obtain ⟨front, back, htext, hfront, hback⟩ := d.exists_text_eq
  rw [htext, List.count_append, List.count_append, List.count_eq_zero_of_not_mem hfront.2,
    List.count_eq_zero_of_not_mem hback.2, Nat.zero_add, Nat.add_zero]

theorem lineFeed_notMem_text {d : Diagnostic} (h : '\n' ∉ d.filename) : '\n' ∉ d.text := by
  rw [← List.count_eq_zero, d.count_lineFeed_text]
  exact List.count_eq_zero_of_not_mem h

end Diagnostic

/-! ### Comment lines -/

section CommentLines

variable {marker filename : Text} {found others : List Diagnostic}

/-- Comments are lines that are all ended. -/
theorem flatMap_commentLine (marker : Text) (found : List Diagnostic) :
    found.flatMap (commentLine marker) =
      (found.map fun d => marker ++ ' ' :: d.text).flatMap (· ++ ['\n']) := by
  rw [List.flatMap_map]
  refine List.flatMap_congr fun d _ => ?_
  simp [commentLine]

/-- Comment lines are the pieces of the text that they make, with an empty one behind them. -/
theorem pieces_commentLines (hmarker : '\n' ∉ marker) (hfound : ∀ d ∈ found, '\n' ∉ d.text) :
    Text.pieces (found.flatMap (commentLine marker)) =
      (found.map fun d => marker ++ ' ' :: d.text) ++ [[]] := by
  rw [flatMap_commentLine]
  refine Text.pieces_flatMap_lineFeed ?_
  intro line hmem
  obtain ⟨d, hd, rfl⟩ := List.mem_map.mp hmem
  simp [hmarker, hfound d hd]

/-- Comment lines tell which displayed diagnostics they are for, in their order. -/
theorem map_text_eq_of_commentLines (hmarker : '\n' ∉ marker) (hfound : ∀ d ∈ found, '\n' ∉ d.text)
    (hothers : ∀ d ∈ others, '\n' ∉ d.text)
    (h : found.flatMap (commentLine marker) = others.flatMap (commentLine marker)) :
    found.map Diagnostic.text = others.map Diagnostic.text := by
  have hpieces := congrArg Text.pieces h
  rw [pieces_commentLines hmarker hfound, pieces_commentLines hmarker hothers] at hpieces
  have hcomments := List.append_cancel_right hpieces
  have htexts := congrArg (List.map fun line => line.drop (marker.length + 1)) hcomments
  simpa [Function.comp_def] using htexts

/-- Comments about a file take one line each, and one more for every line feed in its name. -/
theorem count_lineFeed_commentLines (hmarker : '\n' ∉ marker)
    (hfound : ∀ d ∈ found, d.filename = filename) :
    (found.flatMap (commentLine marker)).count '\n' =
      found.length * (filename.count '\n' + 1) := by
  induction found with
  | nil => simp
  | cons d rest ih =>
    obtain ⟨hd, hrest⟩ := List.forall_mem_cons.mp hfound
    have hcomment : (commentLine marker d).count '\n' = filename.count '\n' + 1 := by
      rw [commentLine, List.count_append, List.count_eq_zero_of_not_mem hmarker,
        List.count_cons_of_ne (by decide), List.count_append, d.count_lineFeed_text, hd,
        Nat.zero_add]
      rfl
    rw [List.flatMap_cons, List.count_append, hcomment, ih hrest, List.length_cons, Nat.succ_mul,
      Nat.add_comm]

end CommentLines

end GoldenFiles
