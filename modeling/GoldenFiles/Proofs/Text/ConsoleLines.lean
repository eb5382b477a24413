import GoldenFiles.Proofs.Text.LineEndings
import GoldenFiles.Proofs.Text.Lines
import Mathlib.Logic.Basic
import Mathlib.Tactic.NthRewrite

/-!
# Lines on a console

A console takes a carriage return in front of a line feed for a part of the line break, so it shows
a text in normal form: what is lost is the carriage return at the end of each line that is not the
last one. A text that has been normalized before can still have such lines, where a carriage return
stood in front of a pair.

## Main definitions

* `Text.ShownAs` — a line as it is shown

## Main results

* `Text.normalize_unpieces` — normalizing takes the carriage returns from the ends of lines
* `Text.flatMap_consoleLines` — a console shows the normal form of a text
* `Text.normalize_eq_self_iff_lines` — the texts of which nothing is lost
* `Text.forall_pieces_normalize` — the texts whose normal forms have no line that ends in a carriage
  return
-/

namespace GoldenFiles.Text

variable {text line last rest : Text} {lines front : List Text} {c : Char}

/-! ### Carriage returns at the ends of lines -/

/-- A line as a console shows it. It may have lost a carriage return at its end. -/
def ShownAs (line text : Text) : Prop := text = line ∨ line = text ++ ['\r']

theorem ShownAs.eq_of_getLast? (h : ShownAs line text) (hend : line.getLast? ≠ some '\r') :
    text = line := by
  refine h.resolve_right ?_
  rintro rfl
  exact hend List.getLast?_concat

theorem shownAs_withoutReturn (line : Text) : ShownAs line (withoutReturn line) := by
  unfold withoutReturn
  split
  · next h =>
    obtain ⟨front, rfl⟩ := List.getLast?_eq_some_iff.mp h
    exact .inr (by rw [List.dropLast_concat])
  · exact .inl rfl

theorem withoutReturn_cons (h : line ≠ []) :
    withoutReturn (c :: line) = c :: withoutReturn line := by
  unfold withoutReturn
  rw [List.getLast?_cons_of_ne_nil h, List.dropLast_cons_of_ne_nil h]
  split <;> rfl

theorem withoutReturn_subset (line : Text) : withoutReturn line ⊆ line := by
  unfold withoutReturn
  split
  · exact List.dropLast_subset line
  · exact List.Subset.refl line

theorem withoutReturn_append (front : Text) (h : line ≠ []) :
    withoutReturn (front ++ line) = front ++ withoutReturn line := by
  induction front with
  | nil => rfl
  | cons c front ih =>
    have hne : front ++ line ≠ [] := List.append_ne_nil_of_right_ne_nil front h
    rw [List.cons_append, withoutReturn_cons hne, ih, List.cons_append]

/-- Lines that do not begin with a carriage return keep their first character. -/
theorem exists_withoutReturn_cons (line : Text) (h : c ≠ '\r') :
    ∃ rest, rest ⊆ line ∧ withoutReturn (c :: line) = c :: rest := by
  cases line with
  | nil =>
    refine ⟨[], List.Subset.refl [], if_neg ?_⟩
    rwa [List.getLast?_singleton, Option.some.injEq]
  | cons d line =>
    exact ⟨_, withoutReturn_subset (d :: line), withoutReturn_cons (List.cons_ne_nil _ _)⟩

theorem withoutReturn_eq_self_iff : withoutReturn line = line ↔ line.getLast? ≠ some '\r' := by
  unfold withoutReturn
  split
  · next h =>
    refine iff_of_false (fun heq => ?_) (not_not_intro h)
    have hlength := congrArg List.length heq
    have hpos : line ≠ [] := by
      rintro rfl
      cases h
    have := List.length_pos_iff.mpr hpos
    rw [List.length_dropLast] at hlength
    omega
  · next h => exact iff_of_true rfl h

/-- Of a line and what is behind it, the line loses the carriage return at its end. -/
theorem normalize_append_lineFeed (h : '\n' ∉ line) :
    normalize (line ++ '\n' :: rest) = withoutReturn line ++ '\n' :: normalize rest := by
  induction line with
  | nil => rfl
  | cons c line ih =>
    have hline : '\n' ∉ line := fun hmem => h (List.mem_cons_of_mem c hmem)
    cases line with
    | nil =>
      by_cases hc : c = '\r'
      · subst hc
        rfl
      · rw [List.singleton_append, normalize]
        · simp [withoutReturn, hc, normalize]
        · rintro behind rfl
          exact absurd rfl hc
    | cons d line =>
      rw [withoutReturn_cons (List.cons_ne_nil _ _), List.cons_append, normalize, ih hline]
      · rfl
      · rintro behind - hd
        cases hd
        exact hline List.mem_cons_self

theorem normalize_of_unbroken (h : '\n' ∉ line) : normalize line = line :=
  normalize_eq_self_iff.mpr fun hpair => h (hpair.subset (by decide))

/-- Normalizing takes the carriage returns from the ends of all lines but the last one. -/
theorem normalize_unpieces (hfront : ∀ line ∈ front, '\n' ∉ line) (hlast : '\n' ∉ last) :
    normalize (unpieces (front ++ [last])) = unpieces (front.map withoutReturn ++ [last]) := by
  induction front with
  | nil =>
    rw [List.map_nil, List.nil_append, unpieces, List.intercalate_singleton]
    exact normalize_of_unbroken hlast
  | cons line front ih =>
    obtain ⟨hline, hrest⟩ := List.forall_mem_cons.mp hfront
    rw [List.cons_append, unpieces_cons line (by simp), normalize_append_lineFeed hline, ih hrest,
      List.map_cons, List.cons_append, unpieces_cons _ (by simp)]

/-! ### Pieces of normal forms -/

section

variable (h : pieces text = front ++ [last])
include h

theorem pieces_normalize : pieces (normalize text) = front.map withoutReturn ++ [last] := by
  have hline : ∀ line ∈ front ++ [last], '\n' ∉ line := by
    intro line hmem
    rw [← h] at hmem
    exact lineFeed_notMem_of_mem_pieces hmem
  obtain ⟨hfront, hlast⟩ := List.forall_mem_append.mp hline
  rw [List.forall_mem_singleton] at hlast
  rw [← unpieces_pieces text, h, normalize_unpieces hfront hlast]
  refine pieces_unpieces (by simp) (List.forall_mem_append.mpr ⟨?_, by simpa using hlast⟩)
  rw [List.forall_mem_map]
  exact fun line hmem hbreak => hfront line hmem (withoutReturn_subset line hbreak)

theorem consoleLines_of_pieces (hlast : last ≠ []) :
    consoleLines text = front.map withoutReturn ++ [last] := by
  simp [consoleLines, h, hlast]

/-- A console shows the normal form of a text, and ends its last line. -/
theorem flatMap_consoleLines (hlast : last ≠ []) :
    (consoleLines text).flatMap (· ++ ['\n']) = normalize text ++ ['\n'] := by
  rw [consoleLines_of_pieces h hlast, ← pieces_normalize h, flatMap_lineFeed,
    unpieces_append (pieces_ne_nil _) (by simp), unpieces_pieces]
  rfl

/-- Texts are normal if no line but the last one ends in a carriage return. -/
theorem normalize_eq_self_iff_lines :
    normalize text = text ↔ ∀ line ∈ front, line.getLast? ≠ some '\r' := by
  have hpieces : normalize text = text ↔ pieces (normalize text) = pieces text :=
    ⟨congrArg pieces, pieces_injective⟩
  rw [hpieces, pieces_normalize h, h, List.append_left_inj]
  nth_rewrite 2 [← List.map_id front]
  rw [List.map_inj_left]
  exact forall₂_congr fun line _ => withoutReturn_eq_self_iff

/-- The last line ends in a carriage return if the text does. -/
theorem getLast?_eq_return_iff : last.getLast? = some '\r' ↔ text.getLast? = some '\r' := by
  rw [← unpieces_pieces text, h]
  by_cases hfront : front = []
  · simp [hfront, unpieces]
  · rw [unpieces_append hfront (by simp)]
    cases last with
    | nil => simp [unpieces]
    | cons c rest => simp [unpieces, List.getLast?_cons_cons]

end

/-- A console shows nothing but characters of the text. -/
theorem subset_of_mem_consoleLines (h : line ∈ consoleLines text) : line ⊆ text := by
  rcases List.mem_append.mp h with h | h
  · obtain ⟨piece, hpiece, rfl⟩ := List.mem_map.mp h
    have hsubset := subset_of_mem_pieces (List.dropLast_subset _ hpiece)
    exact List.Subset.trans (withoutReturn_subset piece) hsubset
  · split at h
    · cases h
    · exact subset_of_mem_pieces (List.mem_of_getLast? (Option.mem_toList.mp h))

/-- In its normal form, a text has no line that ends in a carriage return if it does not end in one
itself and has none in front of a pair. -/
theorem forall_pieces_normalize (hpair : ¬ returnedPair <:+: text)
    (hend : text.getLast? ≠ some '\r') :
    ∀ line ∈ pieces (normalize text), line.getLast? ≠ some '\r' := by
  obtain ⟨front, last, htext⟩ := exists_pieces_eq_concat text
  have hnormal := pieces_normalize htext
  rw [← pair_infix_normalize_iff, ← normalize_eq_self_iff,
    normalize_eq_self_iff_lines hnormal] at hpair
  rw [hnormal]
  refine List.forall_mem_append.mpr ⟨hpair, ?_⟩
  rw [List.forall_mem_singleton]
  exact mt (getLast?_eq_return_iff htext).mp hend

end GoldenFiles.Text
