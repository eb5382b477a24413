import GoldenFiles.Proofs.Diff.Rebuilding
import Mathlib.Data.List.Chain

/-!
# What a rendering leaves out

Whether an unchanged line is left out is a matter of distance: it is if no changed line is within as
many positions as there are lines of context. Lines that are left out come in blocks, and each block
is replaced by one line that counts it. A rendering is made in another way, from stretches of
changed and of unchanged lines and from how many lines are kept at the ends of each stretch. Both
come to the same, since an unchanged stretch has changed lines next to it wherever it does not end
with the list.

## Main definitions

* `Near`, `Far` — whether a change is within the context
* `DiffLine.spelling` — what a line of a rendering looks like
* `Abridges` — each block of far lines is counted, and all other lines are shown
* `Borders` — changed lines meet unchanged ones where a stretch ends and the next begins

## Main results

* `Abridges.unique` — there is one way to abridge lines
* `far_append_iff` — the far lines of an unchanged stretch
* `abridges_elideRuns`, `abridges_elide` — eliding stretch by stretch abridges
* `lineDiffer_abridges` — what the differ shows
-/

namespace GoldenFiles.Diff

variable {context i start head tail : Nat} {line : TaggedLine}
  {lines part run before behind tagged : List TaggedLine} {stretches : List (List TaggedLine)}
  {body other : List Text}

/-! ### Distance from changes -/

/-- Some changed line is at most `context` positions away from a position. -/
def Near (context : Nat) (lines : List TaggedLine) (i : Nat) : Prop :=
  ∃ (j : Nat) (line : TaggedLine), lines[j]? = some line ∧ line.tag ≠ .same ∧
    i ≤ j + context ∧ j ≤ i + context

/-- There is an unchanged line at a position, and no change near it. -/
def Far (context : Nat) (lines : List TaggedLine) (i : Nat) : Prop :=
  (∃ line, lines[i]? = some ⟨.same, line⟩) ∧ ¬ Near context lines i

theorem not_far_of_changed (h : lines[i]? = some line) (hchanged : line.tag ≠ .same) :
    ¬ Far context lines i := by
  rintro ⟨⟨same, hsame⟩, -⟩
  rw [h] at hsame
  cases hsame
  exact hchanged rfl

theorem not_far_length (context : Nat) (lines : List TaggedLine) :
    ¬ Far context lines lines.length := by
  rintro ⟨⟨line, hline⟩, -⟩
  rw [List.getElem?_eq_none (Nat.le_refl _)] at hline
  cases hline

/-- What a line of a rendering looks like. A line of a text is shown behind a minus if it has been
removed, behind a plus if it has been added, and behind a blank if it is unchanged. A block of lines
that are left out is one line that tells its length. -/
def DiffLine.spelling : DiffLine → Text
  | .shown ⟨.removed, line⟩ => '-' :: line
  | .shown ⟨.added, line⟩ => '+' :: line
  | .shown ⟨.same, line⟩ => ' ' :: line
  | .elided count => "@@ ".toList ++ Text.ofNat count ++ " unchanged lines @@".toList

theorem DiffLine.text_eq (line : DiffLine) : line.text = line.spelling := by
  match line with
  | .shown ⟨.removed, _⟩ | .shown ⟨.added, _⟩ | .shown ⟨.same, _⟩ | .elided _ => rfl

/-- What becomes of the lines from a position on. A line that is not far is shown. A block of far
lines that no further one follows is replaced by one line that counts it. -/
inductive Abridges (context : Nat) (lines : List TaggedLine) : Nat → List Text → Prop
  | done : Abridges context lines lines.length []
  | shown {i : Nat} {line : TaggedLine} {body : List Text} (h : lines[i]? = some line)
    (hshown : ¬ Far context lines i) (hrest : Abridges context lines (i + 1) body) :
    Abridges context lines i (DiffLine.spelling (.shown line) :: body)
  | hidden {i count : Nat} {body : List Text} (hpos : 0 < count)
    (hfar : ∀ k < count, Far context lines (i + k)) (hend : ¬ Far context lines (i + count))
    (hrest : Abridges context lines (i + count) body) :
    Abridges context lines i (DiffLine.spelling (.elided count) :: body)

namespace Abridges

/-- There is one way to abridge lines. -/
theorem unique (h : Abridges context lines i body) (hother : Abridges context lines i other) :
    body = other := by
  have hnone : lines[lines.length]? = none := List.getElem?_eq_none (Nat.le_refl _)
  induction h generalizing other with
  | done =>
    cases hother with
    | done => rfl
    | shown h => rw [hnone] at h; cases h
    | hidden hpos hfar => exact absurd (hfar 0 hpos) (not_far_length context lines)
  | shown h hshown hrest ih =>
    cases hother with
    | done => rw [hnone] at h; cases h
    | shown hline _ hmore =>
      rw [h] at hline
      cases hline
      rw [ih hmore]
    | hidden hpos hfar => exact absurd (hfar 0 hpos) hshown
  | @hidden i count body hpos hfar hend hrest ih =>
    cases hother with
    | done => exact absurd (hfar 0 hpos) (not_far_length context lines)
    | shown _ hshown => exact absurd (hfar 0 hpos) hshown
    | @hidden _ more _ _ hfarMore hendMore hmore =>
      obtain rfl : count = more := by
        rcases Nat.lt_trichotomy count more with hlt | heq | hlt
        · exact absurd (hfarMore count hlt) hend
        · exact heq
        · exact absurd (hfar more hlt) hendMore
      rw [ih hmore]

/-- Lines in a row that are not far are shown in a row. -/
theorem append_shown (hpart : ∀ k line, part[k]? = some line →
      lines[i + k]? = some line ∧ ¬ Far context lines (i + k))
    (h : Abridges context lines (i + part.length) body) :
    Abridges context lines i ((part.map .shown).map DiffLine.text ++ body) := by
  induction part generalizing i with
  | nil => exact h
  | cons first rest ih =>
    obtain ⟨hfirst, hshown⟩ := hpart 0 first rfl
    rw [List.map_cons, List.map_cons, List.cons_append, DiffLine.text_eq]
    refine .shown hfirst hshown (ih ?_ ?_)
    · intro k line hline
      rw [Nat.add_assoc, Nat.add_comm 1 k]
      exact hpart (k + 1) line hline
    · rwa [Nat.add_assoc, Nat.add_comm 1]

/-- A stretch with all but some lines at its head and its tail far from changes. -/
theorem append_elideRun (hrun : ∀ k line, run[k]? = some line → lines[start + k]? = some line)
    (hfar : ∀ k < run.length,
      (Far context lines (start + k) ↔ head ≤ k ∧ k + tail < run.length))
    (hend : ¬ Far context lines (start + run.length))
    (h : Abridges context lines (start + run.length) body) :
    Abridges context lines start ((elideRun head tail run).map DiffLine.text ++ body) := by
  have hlt {k : Nat} {line : TaggedLine} (hk : run[k]? = some line) : k < run.length :=
    (List.getElem?_eq_some_iff.mp hk).1
  unfold elideRun
  split
  · next hshort =>
    refine append_shown ?_ h
    intro k line hk
    refine ⟨hrun k line hk, ?_⟩
    rw [hfar k (hlt hk)]
    omega
  · next hlong =>
    rw [List.map_append, List.map_cons, List.append_assoc, List.cons_append]
    refine append_shown ?_ ?_
    · intro k line hk
      have hhead : k < head := by
        have := (List.getElem?_eq_some_iff.mp hk).1
        rw [List.length_take] at this
        omega
      rw [List.getElem?_take_of_lt hhead] at hk
      refine ⟨hrun k line hk, ?_⟩
      rw [hfar k (hlt hk)]
      omega
    · -- The block in the middle ends where the lines at the tail begin.
      rw [List.length_take_of_le (by omega), DiffLine.text_eq]
      have hcount : start + head + (run.length - head - tail) = start + (run.length - tail) := by
        omega
      refine .hidden (by omega) ?_ ?_ ?_
      · intro k hk
        rw [Nat.add_assoc, hfar _ (by omega)]
        omega
      · rw [hcount]
        by_cases htail : tail = 0
        · rwa [htail, Nat.sub_zero]
        · rw [hfar _ (by omega)]
          omega
      · rw [hcount]
        refine append_shown ?_ ?_
        · intro k line hk
          rw [List.getElem?_drop] at hk
          rw [Nat.add_assoc]
          refine ⟨hrun _ line hk, ?_⟩
          rw [hfar _ (hlt hk)]
          omega
        · rw [List.length_drop]
          have hlength : start + (run.length - tail) + (run.length - (run.length - tail)) =
              start + run.length := by
            omega
          rwa [hlength]

end Abridges

/-! ### Stretches -/

/-- Changed lines meet unchanged ones where a stretch ends and the next begins. -/
def Borders (left right : List TaggedLine) : Prop :=
  ∀ a ∈ left.getLast?, ∀ b ∈ right.head?, a.isSame ≠ b.isSame

theorem ne_nil_of_mem_runs (h : run ∈ runs tagged) : run ≠ [] := by
  fun_induction runs tagged generalizing run with
  | case1 => cases h
  | case2 line rest next stretch others hrest _ ih =>
    rcases List.mem_cons.mp h with rfl | h
    · exact List.cons_ne_nil _ _
    · exact ih (by simp [hrest, h])
  | case3 line rest next stretch others hrest _ ih =>
    rcases List.mem_cons.mp h with rfl | h
    · exact List.cons_ne_nil _ _
    · exact ih (by simpa [hrest] using h)
  | case4 line rest _ ih =>
    rcases List.mem_cons.mp h with rfl | h
    · exact List.cons_ne_nil _ _
    · exact ih h

theorem isChain_runs (tagged : List TaggedLine) : (runs tagged).IsChain Borders := by
  fun_induction runs tagged with
  | case1 => exact .nil
  | case2 line rest next stretch others hrest _ ih =>
    rw [hrest, List.isChain_cons] at ih
    refine List.isChain_cons.mpr ⟨?_, ih.2⟩
    intro other hother
    have hborders := ih.1 other hother
    rwa [Borders, List.getLast?_cons_cons]
  | case3 line rest next stretch others hrest hne ih =>
    rw [hrest] at ih
    refine List.isChain_cons_cons.mpr ⟨?_, ih⟩
    intro a ha b hb
    cases ha
    cases hb
    exact hne
  | case4 line rest hnone ih =>
    cases hruns : runs rest with
    | nil => exact .singleton _
    | cons first others =>
      cases first with
      | nil => exact absurd rfl (ne_nil_of_mem_runs (hruns ▸ List.mem_cons_self))
      | cons next stretch => exact absurd hruns (hnone next stretch others)

/-- A line of a stretch is where the stretch has it, behind the lines before. -/
theorem getElem?_stretch {k : Nat} (h : run[k]? = some line) :
    (before ++ (run ++ behind))[before.length + k]? = some line := by
  have hk := (List.getElem?_eq_some_iff.mp h).1
  rw [List.getElem?_append_right (Nat.le_add_right _ _), Nat.add_sub_cancel_left,
    List.getElem?_append_left hk, h]

/-- Changes near an unchanged stretch are near one of its ends. An end at which there is no change
has no context. -/
theorem near_append_iff {k : Nat} (hrun : ∀ line ∈ run, line.tag = .same)
    (hbefore : ∀ line ∈ before.getLast?, line.tag ≠ .same)
    (hbehind : ∀ line ∈ behind.head?, line.tag ≠ .same) (hk : k < run.length) :
    Near context (before ++ (run ++ behind)) (before.length + k) ↔
      k < (if before = [] then 0 else context) ∨
        run.length ≤ k + (if behind = [] then 0 else context) := by
  constructor
  · rintro ⟨j, line, hline, hchanged, hleft, hright⟩
    have hj := (List.getElem?_eq_some_iff.mp hline).1
    rw [List.length_append, List.length_append] at hj
    rcases Nat.lt_or_ge j before.length with hlt | hge
    · have hne : before ≠ [] := List.ne_nil_of_length_pos (Nat.zero_lt_of_lt hlt)
      rw [if_neg hne]
      exact .inl (by omega)
    rcases Nat.lt_or_ge j (before.length + run.length) with hlt | hge'
    · rw [List.getElem?_append_right hge, List.getElem?_append_left (by omega)] at hline
      exact absurd (hrun line (List.mem_of_getElem? hline)) hchanged
    · have hne : behind ≠ [] := List.ne_nil_of_length_pos (by omega)
      rw [if_neg hne]
      exact .inr (by omega)
  · rintro (hlt | hle)
    · by_cases hne : before = []
      · simp [hne] at hlt
      rw [if_neg hne] at hlt
      obtain ⟨front, line, rfl⟩ := (List.eq_nil_or_concat before).resolve_left hne
      refine ⟨front.length, line, ?_, hbefore line (by simp), ?_, ?_⟩
      · simp
      · rw [List.length_concat]
        omega
      · rw [List.length_concat]
        omega
    · by_cases hne : behind = []
      · simp only [if_pos hne] at hle
        omega
      rw [if_neg hne] at hle
      obtain ⟨line, more, rfl⟩ := List.exists_cons_of_ne_nil hne
      refine ⟨before.length + run.length, line, ?_, hbehind line rfl, by omega, by omega⟩
      simp

/-- Of an unchanged stretch those lines are far that are within the context of neither end. -/
theorem far_append_iff {k : Nat} (hrun : ∀ line ∈ run, line.tag = .same)
    (hbefore : ∀ line ∈ before.getLast?, line.tag ≠ .same)
    (hbehind : ∀ line ∈ behind.head?, line.tag ≠ .same) (hk : k < run.length) :
    Far context (before ++ (run ++ behind)) (before.length + k) ↔
      (if before = [] then 0 else context) ≤ k ∧
        k + (if behind = [] then 0 else context) < run.length := by
  have hline : ∃ line, (before ++ (run ++ behind))[before.length + k]? = some ⟨.same, line⟩ := by
    have hsame := hrun run[k] (List.getElem_mem hk)
    refine ⟨run[k].line, getElem?_stretch ?_⟩
    rw [List.getElem?_eq_getElem hk, ← hsame]
  rw [Far, near_append_iff hrun hbefore hbehind hk, not_or, Nat.not_lt, Nat.not_le]
  exact and_iff_right hline

theorem tag_ne_of_isSame (h : line.isSame = false) : line.tag ≠ .same := by
  simpa [TaggedLine.isSame] using h

theorem tag_eq_of_isSame (h : line.isSame = true) : line.tag = .same := by
  simpa [TaggedLine.isSame] using h

theorem flatten_eq_nil_iff_of_ne_nil (hne : ∀ run ∈ stretches, run ≠ []) :
    stretches.flatten = [] ↔ stretches = [] := by
  cases stretches with
  | nil => simp
  | cons run rest => simp [hne run List.mem_cons_self]

theorem head?_flatten_of_ne_nil (hne : ∀ run ∈ stretches, run ≠ []) :
    stretches.flatten.head? = stretches.head?.bind List.head? := by
  cases stretches with
  | nil => rfl
  | cons run rest =>
    rw [List.flatten_cons, List.head?_append_of_ne_nil _ (hne run List.mem_cons_self)]
    rfl

/-- The position behind a stretch holds a changed line, or nothing. -/
theorem not_far_behind (hbehind : ∀ line ∈ behind.head?, line.tag ≠ .same) :
    ¬ Far context (before ++ (run ++ behind)) (before.length + run.length) := by
  cases behind with
  | nil =>
    rw [List.append_nil, ← List.length_append]
    exact not_far_length context _
  | cons line rest =>
    have hline : (before ++ (run ++ line :: rest))[before.length + run.length]? = some line := by
      simp
    exact not_far_of_changed hline (hbehind line rfl)

/-- Eliding stretch by stretch abridges the lines of the stretches, whatever lines come before. -/
theorem abridges_elideRuns {leading : Bool} (before : List TaggedLine)
    (hleading : leading = true ↔ before = []) (hne : ∀ run ∈ stretches, run ≠ [])
    (huniform : ∀ run ∈ stretches, Uniform run) (hchain : (before :: stretches).IsChain Borders) :
    Abridges context (before ++ stretches.flatten) before.length
      ((elideRuns context leading stretches).map DiffLine.text) := by
  induction stretches generalizing before leading with
  | nil =>
    rw [List.flatten_nil, List.append_nil]
    exact .done
  | cons run rest ih =>
    obtain ⟨hrunNe, hrestNe⟩ := List.forall_mem_cons.mp hne
    obtain ⟨hrun, hrest⟩ := List.forall_mem_cons.mp huniform
    obtain ⟨hborder, hchainRest⟩ := List.isChain_cons_cons.mp hchain
    obtain ⟨hnext, hchainMore⟩ := List.isChain_cons.mp hchainRest
    have hbelow : Abridges context (before ++ (run ++ rest.flatten)) (before.length + run.length)
        ((elideRuns context false rest).map DiffLine.text) := by
      have hfalse : false = true ↔ before ++ run = [] := by simp [hrunNe]
      have hmore := ih (before ++ run) hfalse hrestNe hrest
        (List.isChain_cons.mpr ⟨fun next hmem => ?_, hchainMore⟩)
      · rwa [List.append_assoc, List.length_append] at hmore
      · rw [Borders, List.getLast?_append_of_ne_nil _ hrunNe]
        exact hnext next hmem
    obtain ⟨first, others, rfl⟩ := List.exists_cons_of_ne_nil hrunNe
    rw [elideRuns, List.map_append, List.flatten_cons]
    cases hkind : first.isSame with
    | true =>
      have hsame : ∀ line ∈ first :: others, line.tag = .same := fun line hline =>
        tag_eq_of_isSame ((hrun line hline).trans hkind)
      have hbefore : ∀ line ∈ before.getLast?, line.tag ≠ .same := by
        intro line hline
        have hdiffers := hborder line hline first rfl
        rw [hkind] at hdiffers
        exact tag_ne_of_isSame (Bool.eq_false_iff.mpr hdiffers)
      have hbehind : ∀ line ∈ rest.flatten.head?, line.tag ≠ .same := by
        intro line hline
        rw [head?_flatten_of_ne_nil hrestNe] at hline
        obtain ⟨next, hmem, hline⟩ := Option.bind_eq_some_iff.mp hline
        have hlast := List.getLast?_eq_some_getLast hrunNe
        have hdiffers := hnext next hmem _ hlast line hline
        rw [hrun _ (List.getLast_mem hrunNe), List.head?_cons, Option.any_some, hkind] at hdiffers
        exact tag_ne_of_isSame (Bool.eq_false_iff.mpr hdiffers.symm)
      have hhead :
          (if leading = true then 0 else context) = if before = [] then 0 else context := by
        simp [hleading]
      rw [List.head?_cons, Option.any_some, if_pos hkind, hhead]
      refine .append_elideRun (fun k line => getElem?_stretch) ?_ (not_far_behind hbehind) hbelow
      intro k hk
      rw [far_append_iff hsame hbefore hbehind hk]
      simp only [flatten_eq_nil_iff_of_ne_nil hrestNe]
    | false =>
      rw [List.head?_cons, Option.any_some, if_neg (by simp [hkind])]
      refine .append_shown ?_ hbelow
      intro k line hk
      have hline := hrun line (List.mem_of_getElem? hk)
      exact ⟨getElem?_stretch hk,
        not_far_of_changed (getElem?_stretch hk) (tag_ne_of_isSame (hline.trans hkind))⟩

/-- The lines of a rendering abridge the lines that they stand for. -/
theorem abridges_elide (context : Nat) (lines : List TaggedLine) :
    Abridges context lines 0 ((elide context lines).map DiffLine.text) := by
  have h : Abridges context ([] ++ (runs lines).flatten) ([] : List TaggedLine).length
      ((elideRuns context true (runs lines)).map DiffLine.text) := by
    refine abridges_elideRuns [] (by simp) (fun run => ne_nil_of_mem_runs)
      (fun run => uniform_of_mem_runs) (List.isChain_cons.mpr ⟨?_, isChain_runs lines⟩)
    intro run _ line hline
    cases hline
  rwa [flatten_runs] at h

/-! ### The differ -/

/-- A rendering of two texts consists of its header and the abridged lines of their comparison,
without the unchanged empty line at the end: lines that are not far from a change are shown behind
their marks, and every block of other lines is counted. There is no other way to abridge these
lines. -/
theorem lineDiffer_abridges (context : Nat) (label : Text) {expected actual : Text}
    (h : expected ≠ actual) :
    ∃ body, lineDiffer context label expected actual =
        some (Text.unpieces
          (["--- expected ".toList ++ label, "+++ actual ".toList ++ label] ++ body)) ∧
      ∀ other, Abridges context (withoutFinalEmpty (taggedLines expected actual)) 0 other ↔
        other = body := by
  refine ⟨(bodyLines context expected actual).map DiffLine.text, ?_, ?_⟩
  · rw [lineDiffer_eq, if_neg h, render, headerLines]
  · intro other
    have hbody := abridges_elide context (withoutFinalEmpty (taggedLines expected actual))
    constructor
    · exact fun hother => hother.unique hbody
    · rintro rfl
      exact hbody

/-- Four lines before a change, of which one is kept, and one line behind it. -/
theorem lineDiffer_abridges_longHead :
    "1\n2\n3\n4\nold\n5\n".toList ≠ "1\n2\n3\n4\nnew\n5\n".toList ∧
      ∃ body, some (Text.unpieces (headerLines "f".toList ++ body)) =
        some "--- expected f\n+++ actual f\n@@ 3 unchanged lines @@\n 4\n-old\n+new\n 5".toList ∧
        Abridges 1 [⟨.same, ['1']⟩, ⟨.same, ['2']⟩, ⟨.same, ['3']⟩, ⟨.same, ['4']⟩,
          ⟨.removed, "old".toList⟩, ⟨.added, "new".toList⟩, ⟨.same, ['5']⟩] 0 body := by
  have hne : "1\n2\n3\n4\nold\n5\n".toList ≠ "1\n2\n3\n4\nnew\n5\n".toList := by decide
  obtain ⟨body, hrendered, hbody⟩ := lineDiffer_abridges 1 "f".toList hne
  refine ⟨hne, body, hrendered.symm.trans ?_, ?_⟩
  · decide +kernel
  · have hlines : withoutFinalEmpty (taggedLines "1\n2\n3\n4\nold\n5\n".toList
        "1\n2\n3\n4\nnew\n5\n".toList) = [⟨.same, ['1']⟩, ⟨.same, ['2']⟩, ⟨.same, ['3']⟩,
          ⟨.same, ['4']⟩, ⟨.removed, "old".toList⟩, ⟨.added, "new".toList⟩, ⟨.same, ['5']⟩] := by
      decide +kernel
    rw [← hlines]
    exact (hbody body).mpr rfl

end GoldenFiles.Diff
