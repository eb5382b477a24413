import GoldenFiles.Proofs.Diff.Agreement
import Mathlib.Data.List.TakeWhile

/-!
# The merging loop

The tagged lines of two texts are collected by a loop. In every round it takes the lines that both
texts and the common lines have next, then the lines of the first text up to the next common one,
then those of the second text, and it goes on until both texts are used up. Each of these groups
becomes one chunk of text, which is taken apart at its line feeds again.

A round that finds nothing to take would be repeated forever. It does not happen, because the common
lines are lines of both texts: every round takes a line, and leaves common lines that are.

## Main definitions

* `MergeState`, `MergeState.next` — what the loop has left, and what a round leaves
* `Chunk` — a group of lines as one text
* `Halts` — the loop ends with the given chunks
* `sideLines` — the lines of one of the two texts

## Main results

* `MergeState.Common.next`, `MergeState.Common.next_lt` — a round keeps the common lines common, and
  takes a line
* `MergeState.Common.halts` — the loop ends, and its chunks hold the tagged lines
* `sideLines_merge` — tagged lines hold all lines of either text
-/

namespace GoldenFiles.Diff

variable {line other : Text} {lines others common group : List Text}

/-! ### Next common lines -/

/-- Whether a line is not the next common one. -/
def differs (common : List Text) (line : Text) : Bool := common.head? ≠ some line

theorem differs_iff : differs common line = true ↔ common.head? ≠ some line := by simp [differs]

theorem sublist_of_differs (h : common.Sublist (line :: lines)) (hd : differs common line = true) :
    common.Sublist lines := by
  cases h with
  | cons _ h => exact h
  | cons_cons _ h => exact absurd List.head?_cons (differs_iff.mp hd)

theorem exists_of_not_differs (h : ¬differs common line = true) :
    ∃ rest, common = line :: rest := by
  rw [differs_iff, not_not] at h
  exact List.head?_eq_some_iff.mp h

theorem differs_cons_of_ne (h : other ≠ line) : differs (line :: common) other = true := by
  rw [differs_iff, List.head?_cons]
  exact fun heq => h (Option.some.inj heq).symm

/-- Passing over lines that are not the next common one loses no common line. -/
theorem sublist_dropWhile_differs (h : common.Sublist lines) :
    common.Sublist (lines.dropWhile (differs common)) := by
  induction lines with
  | nil => exact h
  | cons line rest ih =>
    by_cases hd : differs common line = true
    · rw [List.dropWhile_cons_of_pos hd]
      exact ih (sublist_of_differs h hd)
    · rwa [List.dropWhile_cons_of_neg hd]

/-- The lines that three lists begin with in common. -/
def shared : List Text → List Text → List Text → List Text
  | line :: lines, other :: others, next :: common =>
    if line = other ∧ line = next then line :: shared lines others common else []
  | _, _, _ => []

theorem shared_begins (lines others common : List Text) :
    shared lines others common <+: lines ∧ shared lines others common <+: others ∧
      shared lines others common <+: common := by
  fun_induction shared lines others common with
  | case1 line lines other others next common h ih =>
    obtain ⟨rfl, rfl⟩ := h
    simpa [List.cons_prefix_cons] using ih
  | case2 => exact ⟨List.nil_prefix, List.nil_prefix, List.nil_prefix⟩
  | case3 => exact ⟨List.nil_prefix, List.nil_prefix, List.nil_prefix⟩

/-! ### Merging up to the next common line -/

theorem merge_cons_of_differs (others : List Text) (h : differs common line = true) :
    merge (line :: lines) others common = ⟨.removed, line⟩ :: merge lines others common := by
  cases others with
  | nil => rw [merge, if_neg (differs_iff.mp h)]
  | cons other others => rw [merge, if_neg (differs_iff.mp h)]

theorem merge_of_differs (h : lines.takeWhile (differs common) = [])
    (hd : differs common other = true) :
    merge lines (other :: others) common = ⟨.added, other⟩ :: merge lines others common := by
  cases lines with
  | nil => rw [merge, if_neg (differs_iff.mp hd)]
  | cons line rest =>
    obtain ⟨behind, rfl⟩ : ∃ behind, common = line :: behind := by
      apply exists_of_not_differs
      intro hline
      rw [List.takeWhile_cons_of_pos hline] at h
      cases h
    have hne : other ≠ line := by
      rintro rfl
      exact differs_iff.mp hd List.head?_cons
    rw [merge, if_pos List.head?_cons, if_neg hne]

/-! ### Lines in groups -/

/-- A group of lines as one text. -/
structure Chunk where
  tag : Tag
  text : Text
  deriving DecidableEq, Repr

namespace Chunk

/-- The chunk for a group of lines, if there are any. -/
def ofGroup (tag : Tag) (group : List Text) : List Chunk :=
  if group = [] then [] else [⟨tag, Text.unpieces group⟩]

/-- The lines of a chunk, tagged as it is. -/
def tagged (chunk : Chunk) : List TaggedLine := (Text.pieces chunk.text).map (⟨chunk.tag, ·⟩)

theorem flatMap_tagged_ofGroup (tag : Tag) (h : ∀ line ∈ group, '\n' ∉ line) :
    (ofGroup tag group).flatMap tagged = group.map (⟨tag, ·⟩) := by
  by_cases hne : group = []
  · simp [ofGroup, hne]
  · simp [ofGroup, hne, tagged, Text.pieces_unpieces hne h]

end Chunk

/-! ### The loop -/

/-- What the loop has left: lines of both texts, and common lines. -/
structure MergeState where
  lines : List Text
  others : List Text
  common : List Text
  deriving DecidableEq, Repr

namespace MergeState

/-- The lines that both texts and the common lines have next. -/
def sharedLines (s : MergeState) : List Text := shared s.lines s.others s.common

/-- The lines of the first text up to the next common one. -/
def removedLines (s : MergeState) : List Text := s.lines.takeWhile (differs s.common)

/-- The lines of the second text up to the next common one. -/
def addedLines (s : MergeState) : List Text := s.others.takeWhile (differs s.common)

/-- What is left behind the shared lines. -/
def pastShared (s : MergeState) : MergeState :=
  let count := s.sharedLines.length
  ⟨s.lines.drop count, s.others.drop count, s.common.drop count⟩

/-- What is left behind the removed lines. -/
def pastRemoved (s : MergeState) : MergeState :=
  { s with lines := s.lines.dropWhile (differs s.common) }

/-- What is left behind the added lines. -/
def pastAdded (s : MergeState) : MergeState :=
  { s with others := s.others.dropWhile (differs s.common) }

/-- What a round leaves. -/
def next (s : MergeState) : MergeState := s.pastShared.pastRemoved.pastAdded

/-- What a round takes. -/
def chunks (s : MergeState) : List Chunk :=
  Chunk.ofGroup .same s.sharedLines ++
    (Chunk.ofGroup .removed s.pastShared.removedLines ++
      Chunk.ofGroup .added s.pastShared.pastRemoved.addedLines)

/-- How many lines of the texts are left. -/
def size (s : MergeState) : Nat := s.lines.length + s.others.length

/-- The tagged lines for what is left. -/
def tagged (s : MergeState) : List TaggedLine := merge s.lines s.others s.common

end MergeState

/-- The loop ends with the given chunks. -/
inductive Halts : MergeState → List Chunk → Prop
  | done {s : MergeState} (h : s.size = 0) : Halts s []
  | round {s : MergeState} {chunks : List Chunk} (h : s.size ≠ 0) (hrest : Halts s.next chunks) :
      Halts s (s.chunks ++ chunks)

namespace MergeState

variable {s t : MergeState}

/-! ### What the steps of a round take -/

theorem tagged_pastShared (s : MergeState) :
    s.tagged = s.sharedLines.map (⟨.same, ·⟩) ++ s.pastShared.tagged := by
  obtain ⟨lines, others, common⟩ := s
  simp only [tagged, sharedLines, pastShared]
  fun_induction shared lines others common with
  | case1 line lines other others next common h ih =>
    obtain ⟨rfl, rfl⟩ := h
    rw [merge, if_pos List.head?_cons, if_pos rfl, List.tail_cons, ih]
    rfl
  | case2 => rfl
  | case3 => rfl

theorem tagged_pastRemoved (s : MergeState) :
    s.tagged = s.removedLines.map (⟨.removed, ·⟩) ++ s.pastRemoved.tagged := by
  obtain ⟨lines, others, common⟩ := s
  simp only [tagged, removedLines, pastRemoved]
  induction lines with
  | nil => rfl
  | cons line rest ih =>
    by_cases hd : differs common line = true
    · rw [List.takeWhile_cons_of_pos hd, List.dropWhile_cons_of_pos hd, merge_cons_of_differs _ hd,
        ih]
      rfl
    · rw [List.takeWhile_cons_of_neg hd, List.dropWhile_cons_of_neg hd]
      rfl

/-- Where the first text has the next common line, or none, the second text is merged up to there.
-/
theorem tagged_pastAdded (h : s.removedLines = []) :
    s.tagged = s.addedLines.map (⟨.added, ·⟩) ++ s.pastAdded.tagged := by
  obtain ⟨lines, others, common⟩ := s
  simp only [tagged, addedLines, pastAdded]
  induction others with
  | nil => rfl
  | cons other rest ih =>
    by_cases hd : differs common other = true
    · rw [List.takeWhile_cons_of_pos hd, List.dropWhile_cons_of_pos hd,
        merge_of_differs (by simpa [removedLines] using h) hd, ih h]
      rfl
    · rw [List.takeWhile_cons_of_neg hd, List.dropWhile_cons_of_neg hd]
      rfl

theorem removedLines_pastRemoved (s : MergeState) : s.pastRemoved.removedLines = [] := by
  rw [removedLines, List.takeWhile_eq_nil_iff]
  intro hpos
  exact List.dropWhile_get_zero_not (differs s.common) s.lines hpos

theorem size_pastShared (s : MergeState) :
    s.size = 2 * s.sharedLines.length + s.pastShared.size := by
  obtain ⟨hlines, hothers, -⟩ := shared_begins s.lines s.others s.common
  have hleft := hlines.length_le
  have hright := hothers.length_le
  simp only [size, pastShared, sharedLines, List.length_drop]
  omega

theorem size_pastRemoved (s : MergeState) :
    s.size = s.removedLines.length + s.pastRemoved.size := by
  have hlines := congrArg List.length
    (List.takeWhile_append_dropWhile (p := differs s.common) (l := s.lines))
  rw [List.length_append] at hlines
  simp only [size, pastRemoved, removedLines]
  omega

theorem size_pastAdded (s : MergeState) : s.size = s.addedLines.length + s.pastAdded.size := by
  have hothers := congrArg List.length
    (List.takeWhile_append_dropWhile (p := differs s.common) (l := s.others))
  rw [List.length_append] at hothers
  simp only [size, pastAdded, addedLines]
  omega

/-! ### Common lines -/

/-- Both texts hold the common lines, and no line is broken. -/
structure Common (s : MergeState) : Prop where
  left : s.common.Sublist s.lines
  right : s.common.Sublist s.others
  unbroken : ∀ line ∈ s.lines ++ s.others, '\n' ∉ line

namespace Common

/-- A later state, in which both texts still hold the common lines. -/
theorem of_sublist (h : s.Common) (hlines : t.lines.Sublist s.lines)
    (hothers : t.others.Sublist s.others) (hleft : t.common.Sublist t.lines)
    (hright : t.common.Sublist t.others) : t.Common :=
  ⟨hleft, hright, fun line hline => h.unbroken line ((hlines.append hothers).subset hline)⟩

theorem pastShared (h : s.Common) : s.pastShared.Common := by
  obtain ⟨hlines, hothers, hcommon⟩ := shared_begins s.lines s.others s.common
  rw [List.prefix_iff_eq_append] at hlines hothers hcommon
  refine h.of_sublist (List.drop_sublist _ _) (List.drop_sublist _ _) ?_ ?_
  · apply (List.append_sublist_append_left s.sharedLines).mp
    rw [MergeState.pastShared, sharedLines, hlines, hcommon]
    exact h.left
  · apply (List.append_sublist_append_left s.sharedLines).mp
    rw [MergeState.pastShared, sharedLines, hothers, hcommon]
    exact h.right

theorem pastRemoved (h : s.Common) : s.pastRemoved.Common :=
  h.of_sublist (List.dropWhile_sublist _) (List.Sublist.refl _)
    (sublist_dropWhile_differs h.left) h.right

theorem pastAdded (h : s.Common) : s.pastAdded.Common :=
  h.of_sublist (List.Sublist.refl _) (List.dropWhile_sublist _) h.left
    (sublist_dropWhile_differs h.right)

/-- A round keeps the common lines common. -/
theorem next (h : s.Common) : s.next.Common := h.pastShared.pastRemoved.pastAdded

/-- Where there is nothing to take, nothing is left. -/
theorem size_eq_zero (h : s.Common) (hshared : s.sharedLines = []) (hremoved : s.removedLines = [])
    (hadded : s.addedLines = []) : s.size = 0 := by
  obtain ⟨lines, others, common⟩ := s
  cases lines with
  | nil =>
    obtain rfl : common = [] := List.sublist_nil.mp h.left
    cases others with
    | nil => rfl
    | cons other others => cases hadded
  | cons line lines =>
    obtain ⟨rest, rfl⟩ : ∃ rest, common = line :: rest := by
      apply exists_of_not_differs
      intro hd
      rw [removedLines, List.takeWhile_cons_of_pos hd] at hremoved
      cases hremoved
    cases others with
    | nil => cases h.right
    | cons other others =>
      by_cases heq : line = other
      · simp [sharedLines, shared, heq] at hshared
      · rw [addedLines, List.takeWhile_cons_of_pos (differs_cons_of_ne (Ne.symm heq))] at hadded
        cases hadded

/-- A round takes a line, unless none is left. -/
theorem next_lt (h : s.Common) (hne : s.size ≠ 0) : s.next.size < s.size := by
  have hshared := s.size_pastShared
  have hremoved := s.pastShared.size_pastRemoved
  have hadded := s.pastShared.pastRemoved.size_pastAdded
  by_contra hlt
  rw [MergeState.next] at hlt
  -- The lines that are left have not become fewer, so that no group holds a line.
  have hsame : s.sharedLines = [] := List.length_eq_zero_iff.mp (by omega)
  have hpast : s.pastShared = s := by simp [MergeState.pastShared, hsame]
  rw [hpast] at hremoved hadded hlt
  have hnone : s.removedLines = [] := List.length_eq_zero_iff.mp (by omega)
  have hpastRemoved : s.pastRemoved.addedLines = [] := List.length_eq_zero_iff.mp (by omega)
  exact hne (h.size_eq_zero hsame hnone hpastRemoved)

/-- What a round takes are the tagged lines up to those for what it leaves. -/
theorem tagged_eq (h : s.Common) :
    s.tagged = s.chunks.flatMap Chunk.tagged ++ s.next.tagged := by
  have hshared : ∀ line ∈ s.sharedLines, '\n' ∉ line := fun line hline =>
    h.unbroken line (List.mem_append_left _ ((shared_begins _ _ _).1.subset hline))
  have hremoved : ∀ line ∈ s.pastShared.removedLines, '\n' ∉ line := fun line hline =>
    h.pastShared.unbroken line (List.mem_append_left _ ((List.takeWhile_sublist _).subset hline))
  have hadded : ∀ line ∈ s.pastShared.pastRemoved.addedLines, '\n' ∉ line := fun line hline =>
    h.pastShared.unbroken line (List.mem_append_right _ ((List.takeWhile_sublist _).subset hline))
  rw [tagged_pastShared, tagged_pastRemoved, tagged_pastAdded (removedLines_pastRemoved _), chunks,
    List.flatMap_append, List.flatMap_append, Chunk.flatMap_tagged_ofGroup _ hshared,
    Chunk.flatMap_tagged_ofGroup _ hremoved, Chunk.flatMap_tagged_ofGroup _ hadded,
    List.append_assoc, List.append_assoc]
  rfl

/-- The loop ends, and its chunks hold the tagged lines. -/
theorem halts (h : s.Common) :
    ∃ chunks, Halts s chunks ∧ chunks.flatMap Chunk.tagged = s.tagged := by
  -- The induction is on the number of lines left, of which every round takes one.
  induction hsize : s.size using Nat.strongRecOn generalizing s with
  | ind size ih =>
    by_cases hdone : s.size = 0
    · refine ⟨[], .done hdone, ?_⟩
      obtain ⟨lines, others, common⟩ := s
      obtain ⟨hlines, hothers⟩ := Nat.add_eq_zero_iff.mp hdone
      obtain rfl := List.length_eq_zero_iff.mp hlines
      obtain rfl := List.length_eq_zero_iff.mp hothers
      simp [tagged, merge]
    · obtain ⟨chunks, hrest, hchunks⟩ := ih s.next.size (hsize ▸ h.next_lt hdone) h.next rfl
      refine ⟨s.chunks ++ chunks, .round hdone hrest, ?_⟩
      rw [List.flatMap_append, hchunks, h.tagged_eq]

end Common

/-- What the loop starts with for two texts. -/
def ofTexts (expected actual : Text) : MergeState where
  lines := visible (Text.pieces expected)
  others := visible (Text.pieces actual)
  common := visible (commonLines (Text.pieces expected) (Text.pieces actual))

end MergeState

/-! ### Visible lines -/

theorem visible_sublist (h : common.Sublist lines) : (visible common).Sublist (visible lines) := by
  unfold visible
  by_cases hcommon : common = [[]]
  · rw [if_pos hcommon]
    exact List.nil_sublist _
  · rw [if_neg hcommon]
    by_cases hlines : lines = [[]]
    · subst hlines
      cases h with
      | cons _ h => exact h.trans (List.nil_sublist _)
      | cons_cons _ h => exact absurd (congrArg _ (List.sublist_nil.mp h)) hcommon
    · rwa [if_neg hlines]

theorem mem_of_mem_visible {line : Text} (h : line ∈ visible lines) : line ∈ lines := by
  unfold visible at h
  split at h
  · cases h
  · exact h

theorem unpieces_visible (text : Text) : Text.unpieces (visible (Text.pieces text)) = text := by
  unfold visible
  split
  · next h => rw [← Text.unpieces_pieces text, h]; rfl
  · exact Text.unpieces_pieces text

theorem MergeState.common_ofTexts (expected actual : Text) : (ofTexts expected actual).Common where
  left := visible_sublist (commonLines_sublist _ _).1
  right := visible_sublist (commonLines_sublist _ _).2
  unbroken line hline := by
    rcases List.mem_append.mp hline with h | h
    · exact Text.lineFeed_notMem_of_mem_pieces (mem_of_mem_visible h)
    · exact Text.lineFeed_notMem_of_mem_pieces (mem_of_mem_visible h)

/-! ### Either text -/

/-- The lines of one of two texts: all but those that only the other one has. -/
def sideLines (foreign : Tag) (tagged : List TaggedLine) : List Text :=
  (tagged.filter (·.tag ≠ foreign)).map (·.line)

@[simp] theorem sideLines_nil (foreign : Tag) : sideLines foreign [] = [] := rfl

@[simp] theorem sideLines_cons (foreign : Tag) (line : TaggedLine) (tagged : List TaggedLine) :
    sideLines foreign (line :: tagged) =
      if line.tag = foreign then sideLines foreign tagged
      else line.line :: sideLines foreign tagged := by
  by_cases h : line.tag = foreign <;> simp [sideLines, h]

theorem sideLines_append (foreign : Tag) (tagged more : List TaggedLine) :
    sideLines foreign (tagged ++ more) = sideLines foreign tagged ++ sideLines foreign more := by
  simp [sideLines]

theorem mem_sideLines {foreign : Tag} {line : TaggedLine} {tagged : List TaggedLine}
    (h : line ∈ tagged) (hforeign : line.tag ≠ foreign) : line.line ∈ sideLines foreign tagged :=
  List.mem_map_of_mem (List.mem_filter.mpr ⟨h, decide_eq_true hforeign⟩)

/-- Both texts have the unchanged lines. -/
theorem sideLines_of_same {foreign : Tag} {run : List TaggedLine} (hforeign : foreign ≠ .same)
    (h : ∀ line ∈ run, line.tag = .same) : sideLines foreign run = run.map (·.line) := by
  have hall : run.filter (·.tag ≠ foreign) = run := by
    rw [List.filter_eq_self]
    intro line hline
    rw [h line hline]
    exact decide_eq_true hforeign.symm
  rw [sideLines, hall]

/-- Tagged lines hold all lines of either text. -/
theorem sideLines_merge (hleft : common.Sublist lines) (hright : common.Sublist others) :
    sideLines .added (merge lines others common) = lines ∧
      sideLines .removed (merge lines others common) = others := by
  fun_induction merge lines others common with
  | case1 lines common line others hhead ih =>
    obtain ⟨rest, rfl⟩ := List.head?_eq_some_iff.mp hhead
    have hrest := ih (List.cons_sublist_cons.mp hleft) (List.cons_sublist_cons.mp hright)
    simpa using hrest
  | case2 line lines common hhead other others hne ih =>
    obtain ⟨rest, rfl⟩ := List.head?_eq_some_iff.mp hhead
    have hrest := ih hleft (sublist_of_differs hright (differs_cons_of_ne hne))
    simpa using hrest
  | case3 line lines common hhead =>
    obtain ⟨rest, rfl⟩ := List.head?_eq_some_iff.mp hhead
    cases hright
  | case4 line lines others common hhead ih =>
    have hrest := ih (sublist_of_differs hleft (differs_iff.mpr hhead)) hright
    simpa using hrest
  | case5 other others common hhead =>
    obtain ⟨rest, rfl⟩ := List.head?_eq_some_iff.mp hhead
    cases hleft
  | case6 other others common hhead ih =>
    have hrest := ih hleft (sublist_of_differs hright (differs_iff.mpr hhead))
    simpa using hrest
  | case7 => exact ⟨rfl, rfl⟩

theorem sideLines_taggedLines (expected actual : Text) :
    sideLines .added (taggedLines expected actual) = visible (Text.pieces expected) ∧
      sideLines .removed (taggedLines expected actual) = visible (Text.pieces actual) :=
  sideLines_merge (MergeState.common_ofTexts expected actual).left
    (MergeState.common_ofTexts expected actual).right

/-- Every tagged line is a line of one of the texts. -/
theorem mem_pieces_of_mem_taggedLines {line : TaggedLine} {expected actual : Text}
    (h : line ∈ taggedLines expected actual) :
    line.line ∈ Text.pieces expected ∨ line.line ∈ Text.pieces actual := by
  obtain ⟨hexpected, hactual⟩ := sideLines_taggedLines expected actual
  by_cases hadded : line.tag = .added
  · have hremoved : line.tag ≠ .removed := by simp [hadded]
    have hline := mem_sideLines h hremoved
    rw [hactual] at hline
    exact .inr (mem_of_mem_visible hline)
  · have hline := mem_sideLines h hadded
    rw [hexpected] at hline
    exact .inl (mem_of_mem_visible hline)

theorem lineFeed_notMem_of_mem_taggedLines {line : TaggedLine} {expected actual : Text}
    (h : line ∈ taggedLines expected actual) : '\n' ∉ line.line :=
  (mem_pieces_of_mem_taggedLines h).elim Text.lineFeed_notMem_of_mem_pieces
    Text.lineFeed_notMem_of_mem_pieces

end GoldenFiles.Diff
