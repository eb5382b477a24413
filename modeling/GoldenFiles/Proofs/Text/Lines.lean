import GoldenFiles.Text
import Mathlib.Data.List.Basic

/-!
# Lines of texts

A text stands for the list of its lines, and every list of lines without line feeds, but for the
empty one, stands for a text: taking apart and joining are inverse to each other. Lines that are
joined can therefore be read back, whatever stands above them.

## Main definitions

* `Text.linesOf` — the lines of a text, without an empty one behind its last line feed

## Main results

* `Text.pieces_injective`, `Text.pieces_unpieces` — texts are lists of lines
* `Text.pieces_unpieces_append` — lines below a head are read back
* `Text.pieces_append` — a text behind another one goes on with its last line
* `Text.pieces_flatMap_lineFeed` — lines that are all ended are read back
-/

namespace GoldenFiles.Text

variable {lines others head body : List Text}

/-! ### Lines of a text -/

/-- The pieces of a text are those of the library's splitting. -/
theorem pieces_eq_splitOn (text : Text) : pieces text = text.splitOn '\n' := by
  induction text with
  | nil => rfl
  | cons c rest ih =>
    rw [pieces, List.splitOn_cons_eq_if_modifyHead, ih]
    by_cases hc : c = '\n'
    · simp [hc]
    · cases h : rest.splitOn '\n' with
      | nil => exact absurd (ih.trans h) (pieces_ne_nil rest)
      | cons piece others => simp [hc]

theorem pieces_injective {a b : Text} (h : pieces a = pieces b) : a = b := by
  rw [← unpieces_pieces a, h, unpieces_pieces]

/-- Lines that are joined are the pieces of the whole. -/
theorem pieces_unpieces (hne : lines ≠ []) (h : ∀ line ∈ lines, '\n' ∉ line) :
    pieces (unpieces lines) = lines := by
  rw [pieces_eq_splitOn]
  exact List.splitOn_intercalate '\n' h hne

/-- The first character of a text goes in front of its first piece, unless it is a line feed. -/
theorem mem_pieces_cons {c : Char} {rest line : Text} (h : line ∈ pieces (c :: rest)) :
    line = [] ∨ line ∈ pieces rest ∨ c ≠ '\n' ∧ ∃ piece ∈ pieces rest, line = c :: piece := by
  obtain ⟨piece, others, hrest⟩ := List.exists_cons_of_ne_nil (pieces_ne_nil rest)
  by_cases hc : c = '\n'
  · subst hc
    rw [pieces_lineFeed] at h
    exact (List.mem_cons.mp h).imp_right .inl
  · rw [pieces, if_neg hc, hrest] at h
    rw [hrest]
    rcases List.mem_cons.mp h with rfl | h
    · exact .inr (.inr ⟨hc, piece, List.mem_cons_self, rfl⟩)
    · exact .inr (.inl (List.mem_cons_of_mem _ h))

theorem lineFeed_notMem_of_mem_pieces {text line : Text} (h : line ∈ pieces text) :
    '\n' ∉ line := by
  induction text generalizing line with
  | nil =>
    obtain rfl : line = [] := by simpa using h
    exact List.not_mem_nil
  | cons c rest ih =>
    rcases mem_pieces_cons h with rfl | h | ⟨hc, piece, hpiece, rfl⟩
    · exact List.not_mem_nil
    · exact ih h
    · exact List.not_mem_cons_of_ne_of_not_mem (Ne.symm hc) (ih hpiece)

theorem subset_of_mem_pieces {text line : Text} (h : line ∈ pieces text) : line ⊆ text := by
  induction text generalizing line with
  | nil =>
    obtain rfl : line = [] := by simpa using h
    exact List.nil_subset _
  | cons c rest ih =>
    rcases mem_pieces_cons h with rfl | h | ⟨-, piece, hpiece, rfl⟩
    · exact List.nil_subset _
    · exact List.subset_cons_of_subset c (ih h)
    · exact List.cons_subset_cons c (ih hpiece)

/-! ### Lines below a head -/

theorem unpieces_cons (line : Text) (h : lines ≠ []) :
    unpieces (line :: lines) = line ++ '\n' :: unpieces lines := by
  rw [unpieces, List.intercalate_cons_of_ne_nil h, List.append_assoc]
  rfl

theorem unpieces_append (hlines : lines ≠ []) (hothers : others ≠ []) :
    unpieces (lines ++ others) = unpieces lines ++ '\n' :: unpieces others := by
  induction lines with
  | nil => exact absurd rfl hlines
  | cons line rest ih =>
    by_cases hrest : rest = []
    · subst hrest
      rw [List.singleton_append, unpieces_cons line hothers]
      simp [unpieces]
    · rw [List.cons_append, unpieces_cons line (by simp [hrest]), ih hrest,
        unpieces_cons line hrest, List.append_assoc, List.cons_append]

/-- Lines below a head are pieces of the whole as they are. The head may be any lines, those that
hold line feeds included. -/
theorem pieces_unpieces_append (hhead : head ≠ []) (hbody : ∀ line ∈ body, '\n' ∉ line) :
    pieces (unpieces (head ++ body)) = pieces (unpieces head) ++ body := by
  by_cases hne : body = []
  · rw [hne, List.append_nil, List.append_nil]
  · rw [unpieces_append hhead hne, pieces_eq_splitOn, List.splitOn_append_cons_self,
      ← pieces_eq_splitOn, ← pieces_eq_splitOn, pieces_unpieces hne hbody]

/-! ### Texts behind each other -/

section

variable {text more last first : Text} {front : List Text}

theorem exists_pieces_eq_concat (text : Text) : ∃ front last, pieces text = front ++ [last] := by
  obtain ⟨front, last, h⟩ := (pieces text).eq_nil_or_concat.resolve_left (pieces_ne_nil text)
  exact ⟨front, last, h.trans List.concat_eq_append⟩

/-- A text behind another one goes on with the last line of that. -/
theorem pieces_append (htext : pieces text = front ++ [last])
    (hmore : pieces more = first :: others) :
    pieces (text ++ more) = front ++ (last ++ first) :: others := by
  have hjoined : text ++ more = unpieces (front ++ (last ++ first) :: others) := by
    rw [← unpieces_pieces text, ← unpieces_pieces more, htext, hmore]
    by_cases hfront : front = []
    · subst hfront
      cases others <;> simp [unpieces, List.intercalate]
    · rw [unpieces_append hfront (List.cons_ne_nil _ _),
        unpieces_append hfront (List.cons_ne_nil _ _)]
      cases others <;> simp [unpieces, List.intercalate]
  have hline {line : Text} (h : line ∈ pieces text ∨ line ∈ pieces more) : '\n' ∉ line :=
    h.elim lineFeed_notMem_of_mem_pieces lineFeed_notMem_of_mem_pieces
  rw [hjoined]
  refine pieces_unpieces (by simp) ?_
  rw [htext, hmore] at hline
  intro line hmem
  rcases List.mem_append.mp hmem with hmem | hmem
  · exact hline (.inl (List.mem_append_left _ hmem))
  rcases List.mem_cons.mp hmem with rfl | hmem
  · rw [List.mem_append, not_or]
    exact ⟨hline (.inl (by simp)), hline (.inr (by simp))⟩
  · exact hline (.inr (List.mem_cons_of_mem _ hmem))

/-- The last line is empty if nothing stands behind the last line feed. -/
theorem getLast?_pieces_iff :
    (pieces text).getLast? = some [] ↔ text = [] ∨ text.getLast? = some '\n' := by
  rcases text.eq_nil_or_concat with rfl | ⟨front, c, rfl⟩
  · simp
  · rw [List.concat_eq_append]
    obtain ⟨before, last, hfront⟩ := exists_pieces_eq_concat front
    by_cases hc : c = '\n'
    · rw [pieces_append hfront (show pieces [c] = [] :: [[]] by simp [hc])]
      simp [hc]
    · rw [pieces_append hfront (show pieces [c] = [c] :: [] by simp [pieces, hc])]
      simp [hc]

/-- The lines of a text: its pieces, without an empty one at the end, which is nothing but what
stands behind the last line feed. -/
def linesOf (text : Text) : List Text :=
  if (pieces text).getLast? = some [] then (pieces text).dropLast else pieces text

theorem linesOf_of_pieces (h : pieces text = front ++ [last]) :
    linesOf text = if last = [] then front else front ++ [last] := by
  simp [linesOf, h]

end

/-! ### Lines that are ended -/

/-- Lines that are all ended are joined, with nothing behind the last one. -/
theorem flatMap_lineFeed (lines : List Text) :
    lines.flatMap (· ++ ['\n']) = unpieces (lines ++ [[]]) := by
  induction lines with
  | nil => rfl
  | cons line rest ih =>
    rw [List.flatMap_cons, ih, List.cons_append, unpieces_cons line (by simp), List.append_assoc]
    rfl

/-- Lines that are all ended are the pieces of the whole, with an empty one behind them. -/
theorem pieces_flatMap_lineFeed (h : ∀ line ∈ lines, '\n' ∉ line) :
    pieces (lines.flatMap (· ++ ['\n'])) = lines ++ [[]] := by
  rw [flatMap_lineFeed]
  refine pieces_unpieces (by simp) ?_
  intro line hmem
  rcases List.mem_append.mp hmem with hmem | hmem
  · exact h line hmem
  · rw [List.mem_singleton.mp hmem]
    exact List.not_mem_nil

/-! ### Numbers -/

theorem lineFeed_notMem_ofNat (n : Nat) : '\n' ∉ ofNat n := fun h =>
  absurd (Nat.isDigit_of_mem_toDigits (by decide) (by decide) h) (by decide)

end GoldenFiles.Text
