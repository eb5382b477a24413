import GoldenFiles.Proofs.Diff.Merging
import Mathlib.Data.List.Basic
import Mathlib.Tactic.NthRewrite

/-!
# Rendering loses nothing

A rendering and one of the two texts give the other one. Shown lines say what becomes of them, and
of lines that are left out it is enough to know how many they are: they are unchanged, so the text
at hand has them. The empty line that is dropped at the end is unchanged as well.

## Main definitions

* `Elides` — a rendering leaves out nothing but unchanged lines, and counts them
* `DiffLine.ofText` — a line of a rendering read back
* `patch` — one of the texts, from the other one and a rendering

## Main results

* `elides_elide` — the stretches that are left out
* `patch_render` — a rendering applied to one of its texts rebuilds the other one
* `lineDiffer_lossless` — the comparison ends, is silent on equal texts only, and loses nothing
-/

namespace GoldenFiles.Diff

/-! ### What is left out -/

/-- The lines of a rendering stand for tagged lines, of which unchanged ones may be left out. -/
inductive Elides : List DiffLine → List TaggedLine → Prop
  | nil : Elides [] []
  | shown {body : List DiffLine} {tagged : List TaggedLine} (line : TaggedLine)
      (h : Elides body tagged) : Elides (.shown line :: body) (line :: tagged)
  | elided {body : List DiffLine} {run tagged : List TaggedLine}
      (hsame : ∀ line ∈ run, line.tag = .same) (h : Elides body tagged) :
      Elides (.elided run.length :: body) (run ++ tagged)

variable {run tagged others : List TaggedLine} {body more : List DiffLine}

namespace Elides

theorem append (h : Elides body tagged) (h' : Elides more others) :
    Elides (body ++ more) (tagged ++ others) := by
  induction h with
  | nil => exact h'
  | shown line _ ih => exact .shown line ih
  | elided hsame _ ih =>
    rw [List.append_assoc]
    exact .elided hsame ih

theorem map_shown (tagged : List TaggedLine) : Elides (tagged.map .shown) tagged := by
  induction tagged with
  | nil => exact .nil
  | cons line rest ih => exact .shown line ih

/-- Shown lines are lines of the texts. -/
theorem mem_of_shown {line : TaggedLine} (h : Elides body tagged) (hline : .shown line ∈ body) :
    line ∈ tagged := by
  induction h with
  | nil => cases hline
  | shown other _ ih =>
    rcases List.mem_cons.mp hline with heq | hline
    · cases heq
      exact List.mem_cons_self
    · exact List.mem_cons_of_mem _ (ih hline)
  | elided _ _ ih =>
    rcases List.mem_cons.mp hline with heq | hline
    · cases heq
    · exact List.mem_append_right _ (ih hline)

end Elides

theorem elides_elideRun (head tail : Nat) (h : ∀ line ∈ run, line.tag = .same) :
    Elides (elideRun head tail run) run := by
  unfold elideRun
  split
  · exact .map_shown run
  · have hlength : ((run.drop head).take (run.length - head - tail)).length =
        run.length - head - tail := by
      rw [List.length_take, List.length_drop]
      omega
    have htail :
        (run.drop head).drop (run.length - head - tail) = run.drop (run.length - tail) := by
      rw [List.drop_drop]
      congr 1
      omega
    have hmiddle : Elides
        (.elided (run.length - head - tail) :: (run.drop (run.length - tail)).map .shown)
        (run.drop head) := by
      rw [← List.take_append_drop (run.length - head - tail) (run.drop head), htail]
      nth_rewrite 1 [← hlength]
      refine .elided ?_ (.map_shown _)
      exact fun line hline => h line (List.mem_of_mem_drop (List.mem_of_mem_take hline))
    have hrun := (Elides.map_shown (run.take head)).append hmiddle
    rwa [List.take_append_drop] at hrun

/-- Stretches of lines are all changed or all unchanged, as their first line is. -/
def Uniform (run : List TaggedLine) : Prop :=
  ∀ line ∈ run, line.isSame = run.head?.any TaggedLine.isSame

theorem uniform_of_mem_runs (h : run ∈ runs tagged) : Uniform run := by
  fun_induction runs tagged generalizing run with
  | case1 => cases h
  | case2 line rest next stretch others hrest hsame ih =>
    rcases List.mem_cons.mp h with rfl | h
    · have hnext : Uniform (next :: stretch) := ih (by simp [hrest])
      intro other hother
      rcases List.mem_cons.mp hother with rfl | hother
      · rfl
      · exact (hnext other hother).trans hsame.symm
    · exact ih (by simp [hrest, h])
  | case3 line rest next stretch others hrest hsame ih =>
    rcases List.mem_cons.mp h with rfl | h
    · simp [Uniform]
    · exact ih (by simpa [hrest] using h)
  | case4 line rest _ ih =>
    rcases List.mem_cons.mp h with rfl | h
    · simp [Uniform]
    · exact ih h

theorem flatten_runs (tagged : List TaggedLine) : (runs tagged).flatten = tagged := by
  fun_induction runs tagged with
  | case1 => rfl
  | case2 line rest next stretch others hrest _ ih =>
    rw [hrest] at ih
    rw [← ih]
    rfl
  | case3 line rest next stretch others hrest _ ih =>
    rw [hrest] at ih
    rw [← ih]
    rfl
  | case4 line rest _ ih => exact congrArg _ ih

theorem elides_elideRuns (context : Nat) (leading : Bool) {stretches : List (List TaggedLine)}
    (h : ∀ run ∈ stretches, Uniform run) :
    Elides (elideRuns context leading stretches) stretches.flatten := by
  induction stretches generalizing leading with
  | nil => exact .nil
  | cons run rest ih =>
    obtain ⟨hrun, hrest⟩ := List.forall_mem_cons.mp h
    rw [elideRuns, List.flatten_cons]
    refine Elides.append ?_ (ih false hrest)
    split
    · next hsame =>
      apply elides_elideRun
      intro line hline
      have hline : line.isSame = true := (hrun line hline).trans hsame
      simpa [TaggedLine.isSame] using hline
    · exact .map_shown run

theorem elides_elide (context : Nat) (tagged : List TaggedLine) :
    Elides (elide context tagged) tagged := by
  have h : Elides (elide context tagged) (runs tagged).flatten :=
    elides_elideRuns context true fun run hrun => uniform_of_mem_runs hrun
  rwa [flatten_runs] at h

/-! ### Reading a rendering -/

/-- A line of a rendering read back. -/
def DiffLine.ofText : Text → DiffLine
  | ' ' :: line => .shown ⟨.same, line⟩
  | '+' :: line => .shown ⟨.added, line⟩
  | '-' :: line => .shown ⟨.removed, line⟩
  | text => .elided (Nat.ofDigitChars 10 ((text.drop 3).takeWhile Char.isDigit) 0)

theorem DiffLine.ofText_text (line : DiffLine) : DiffLine.ofText line.text = line := by
  cases line with
  | shown line =>
    obtain ⟨tag, line⟩ := line
    cases tag <;> rfl
  | elided count =>
    -- The number ends where its digits end, which is before a space.
    have hdigits : ∀ c ∈ Text.ofNat count, c.isDigit = true := by
      intro c hc
      exact Nat.isDigit_of_mem_toDigits (by decide) (by decide) hc
    have hstop : (" unchanged lines @@".toList).takeWhile Char.isDigit = [] := by decide
    change DiffLine.elided (Nat.ofDigitChars 10
      ((Text.ofNat count ++ " unchanged lines @@".toList).takeWhile Char.isDigit) 0) = _
    rw [List.takeWhile_append_of_pos hdigits, hstop, List.append_nil, Text.ofNat,
      Nat.ofDigitChars_toDigits (by decide) (by decide)]

/-- The lines of a rendering below its header, read back. -/
def readBody (label rendering : Text) : List DiffLine :=
  let header := Text.pieces (Text.unpieces (headerLines label))
  ((Text.pieces rendering).drop header.length).map DiffLine.ofText

/-- The lines of one text from those of the other one and the lines of a rendering. Shown lines that
are tagged `lost` are passed over, unchanged ones are kept, and all others are put in. -/
def rebuild (lost : Tag) : List Text → List DiffLine → List Text
  | source, [] => source
  | source, .elided count :: body => source.take count ++ rebuild lost (source.drop count) body
  | source, .shown line :: body =>
    if line.tag = .same then
      line.line :: rebuild lost source.tail body
    else if line.tag = lost then
      rebuild lost source.tail body
    else
      line.line :: rebuild lost source body

/-- Applies a rendering to one of its texts, the one that has the lines tagged `lost`. -/
def patch (lost : Tag) (label text rendering : Text) : Text :=
  Text.unpieces (rebuild lost (visible (Text.pieces text)) (readBody label rendering))

/-- The kind of change that this kind is for the other text. -/
def Tag.opposite : Tag → Tag
  | .same => .same
  | .added => .removed
  | .removed => .added

theorem Tag.opposite_ne_same {tag : Tag} (h : tag ≠ .same) : tag.opposite ≠ .same := by
  cases tag <;> simp_all [Tag.opposite]

theorem Tag.opposite_ne_self {tag : Tag} (h : tag ≠ .same) : tag.opposite ≠ tag := by
  cases tag <;> simp_all [Tag.opposite]

theorem Tag.eq_opposite_of_ne {tag other : Tag} (hother : other ≠ .same) (hsame : tag ≠ .same)
    (hne : tag ≠ other) : tag = other.opposite := by
  cases tag <;> cases other <;> simp_all [Tag.opposite]

/-- A rendering that leaves out unchanged lines only rebuilds the lines of the other text. What
follows the lines for which it stands is left as it is. -/
theorem rebuild_of_elides {lost : Tag} (hlost : lost ≠ .same) (h : Elides body tagged)
    (rest : List Text) :
    rebuild lost (sideLines lost.opposite tagged ++ rest) body = sideLines lost tagged ++ rest := by
  induction h with
  | nil => rfl
  | shown line _ ih =>
    by_cases hsame : line.tag = .same
    · have hboth : line.tag ≠ lost ∧ line.tag ≠ lost.opposite := by
        rw [hsame]
        exact ⟨hlost.symm, (Tag.opposite_ne_same hlost).symm⟩
      rw [sideLines_cons, if_neg hboth.2, sideLines_cons, if_neg hboth.1, List.cons_append, rebuild,
        if_pos hsame, List.tail_cons, ih, List.cons_append]
    · by_cases hhere : line.tag = lost
      · have hone : line.tag ≠ lost.opposite := by
          rw [hhere]
          exact (Tag.opposite_ne_self hlost).symm
        rw [sideLines_cons, if_neg hone, sideLines_cons, if_pos hhere, List.cons_append, rebuild,
          if_neg hsame, if_pos hhere, List.tail_cons, ih]
      · have hthere : line.tag = lost.opposite := Tag.eq_opposite_of_ne hlost hsame hhere
        rw [sideLines_cons, if_pos hthere, sideLines_cons, if_neg hhere, rebuild, if_neg hsame,
          if_neg hhere, ih, List.cons_append]
  | @elided body run tagged hsame _ ih =>
    rw [sideLines_append, sideLines_append, sideLines_of_same hlost hsame,
      sideLines_of_same (Tag.opposite_ne_same hlost) hsame, List.append_assoc, List.append_assoc,
      rebuild]
    have hlength : run.length = (run.map (·.line)).length := (List.length_map _).symm
    rw [hlength, List.take_left, List.drop_left, ih]

/-- Dropping the empty line at the end drops a line that both texts have. -/
theorem exists_withoutFinalEmpty (tagged : List TaggedLine) :
    ∃ rest, (∀ line ∈ rest, line.tag = .same) ∧ tagged = withoutFinalEmpty tagged ++ rest := by
  unfold withoutFinalEmpty
  split
  · next h =>
    refine ⟨[⟨.same, []⟩], by simp, ?_⟩
    exact (List.dropLast_append_getLast? _ h).symm
  · exact ⟨[], by simp, (List.append_nil tagged).symm⟩

/-- The lines of a rendering rebuild the lines of either text from those of the other one. -/
theorem rebuild_bodyLines (context : Nat) (expected actual : Text) (lost : Tag)
    (hlost : lost ≠ .same) :
    rebuild lost (sideLines lost.opposite (taggedLines expected actual))
      (bodyLines context expected actual) = sideLines lost (taggedLines expected actual) := by
  obtain ⟨rest, hsame, htagged⟩ := exists_withoutFinalEmpty (taggedLines expected actual)
  have hsides {foreign : Tag} (hforeign : foreign ≠ .same) :
      sideLines foreign (taggedLines expected actual) =
        sideLines foreign (withoutFinalEmpty (taggedLines expected actual)) ++
          rest.map (·.line) := by
    nth_rewrite 1 [htagged]
    rw [sideLines_append, sideLines_of_same hforeign hsame]
  rw [hsides hlost, hsides (Tag.opposite_ne_same hlost)]
  exact rebuild_of_elides hlost (elides_elide context _) (rest.map (·.line))

/-! ### Renderings -/

/-- Shown lines are lines of the comparison. -/
theorem mem_taggedLines_of_shown {context : Nat} {expected actual : Text} {line : TaggedLine}
    (h : .shown line ∈ bodyLines context expected actual) : line ∈ taggedLines expected actual := by
  obtain ⟨rest, -, htagged⟩ := exists_withoutFinalEmpty (taggedLines expected actual)
  rw [htagged]
  exact List.mem_append_left _ ((elides_elide context _).mem_of_shown h)

/-- No line of a rendering is broken. -/
theorem lineFeed_notMem_of_mem_bodyLines {context : Nat} {expected actual line : Text}
    (h : line ∈ (bodyLines context expected actual).map DiffLine.text) : '\n' ∉ line := by
  obtain ⟨diffLine, hbody, rfl⟩ := List.mem_map.mp h
  cases diffLine with
  | shown shown =>
    have hmark : '\n' ≠ shown.tag.mark := by cases shown.tag <;> decide
    exact List.not_mem_cons_of_ne_of_not_mem hmark
      (lineFeed_notMem_of_mem_taggedLines (mem_taggedLines_of_shown hbody))
  | elided count =>
    change '\n' ∉ "@@ ".toList ++ Text.ofNat count ++ " unchanged lines @@".toList
    simp [Text.lineFeed_notMem_ofNat]

/-- The pieces of a rendering are its lines, if the label is not broken. -/
theorem pieces_render {label : Text} (context : Nat) (expected actual : Text)
    (hlabel : '\n' ∉ label) :
    Text.pieces (render context label expected actual) =
      headerLines label ++ (bodyLines context expected actual).map DiffLine.text := by
  refine Text.pieces_unpieces (by simp [headerLines]) (List.forall_mem_append.mpr ⟨?_, ?_⟩)
  · simp [headerLines, hlabel]
  · exact fun line => lineFeed_notMem_of_mem_bodyLines

/-- A rendering is read back as it was written. -/
theorem readBody_render (context : Nat) (label expected actual : Text) :
    readBody label (render context label expected actual) = bodyLines context expected actual := by
  have hheader : headerLines label ≠ [] := List.cons_ne_nil _ _
  rw [readBody, render, Text.pieces_unpieces_append hheader
    fun _ => lineFeed_notMem_of_mem_bodyLines]
  simp [Function.comp_def, DiffLine.ofText_text]

/-- A rendering applied to one of its texts rebuilds the other one. -/
theorem patch_render (context : Nat) (label expected actual : Text) :
    patch .removed label expected (render context label expected actual) = actual ∧
      patch .added label actual (render context label expected actual) = expected := by
  obtain ⟨hexpected, hactual⟩ := sideLines_taggedLines expected actual
  have hremoved := rebuild_bodyLines context expected actual .removed (by decide)
  have hadded := rebuild_bodyLines context expected actual .added (by decide)
  rw [hactual] at hremoved
  rw [hexpected] at hadded
  constructor
  · rw [patch, readBody_render, ← hexpected]
    exact (congrArg Text.unpieces hremoved).trans (unpieces_visible actual)
  · rw [patch, readBody_render, ← hactual]
    exact (congrArg Text.unpieces hadded).trans (unpieces_visible expected)

/-- The line that is left out is copied from the text at hand. -/
example : patch .removed "f".toList "a\nb".toList
    "--- expected f\n+++ actual f\n@@ 1 unchanged lines @@\n-b\n+c".toList = "a\nc".toList := by
  cbv

/-! ### The differ -/

variable {context : Nat} {label expected actual rendering : Text}

theorem lineDiffer_eq_none_iff :
    lineDiffer context label expected actual = none ↔ expected = actual := by
  rw [lineDiffer_eq]
  by_cases h : expected = actual <;> simp [h]

theorem patch_of_lineDiffer_eq_some
    (h : lineDiffer context label expected actual = some rendering) :
    patch .removed label expected rendering = actual ∧
      patch .added label actual rendering = expected := by
  rw [lineDiffer_eq] at h
  split at h
  · cases h
  · cases h
    exact patch_render context label expected actual

/-- A text is known from another one that it is compared with, and from what is found. -/
theorem lineDiffer_injective (context : Nat) (label text : Text) :
    Function.Injective (lineDiffer context label text) ∧
      Function.Injective fun expected => lineDiffer context label expected text := by
  constructor
  · refine Function.LeftInverse.injective
      (g := fun found => found.elim text (patch .removed label text)) ?_
    intro actual
    cases h : lineDiffer context label text actual with
    | none => exact lineDiffer_eq_none_iff.mp h
    | some rendering => simpa using (patch_of_lineDiffer_eq_some h).1
  · refine Function.LeftInverse.injective
      (g := fun found => found.elim text (patch .added label text)) ?_
    intro expected
    cases h : lineDiffer context label expected text with
    | none => simpa [h] using (lineDiffer_eq_none_iff.mp h).symm
    | some rendering => simpa [h] using (patch_of_lineDiffer_eq_some h).2

/-- Comparing line by line loses nothing. The loop that collects the lines ends for all texts, with
chunks that hold the tagged lines. Nothing is found exactly for equal texts. No two texts are found
to differ from a third one in the same way, and what is found, applied to one of the texts, rebuilds
the other one. -/
theorem lineDiffer_lossless (context : Nat) (label : Text) :
    (∀ expected actual, ∃ chunks, Halts (.ofTexts expected actual) chunks ∧
      chunks.flatMap Chunk.tagged = taggedLines expected actual) ∧
    (∀ expected actual, lineDiffer context label expected actual = none ↔ expected = actual) ∧
    (∀ expected, Function.Injective fun actual => lineDiffer context label expected actual) ∧
    (∀ actual, Function.Injective fun expected => lineDiffer context label expected actual) ∧
    (∀ expected actual rendering, lineDiffer context label expected actual = some rendering →
      patch .removed label expected rendering = actual ∧
        patch .added label actual rendering = expected) := by
  refine ⟨?_, ?_, ?_, ?_, ?_⟩
  · intro expected actual
    exact (MergeState.common_ofTexts expected actual).halts
  · intro expected actual
    exact lineDiffer_eq_none_iff
  · intro expected
    exact (lineDiffer_injective context label expected).1
  · intro actual
    exact (lineDiffer_injective context label actual).2
  · intro expected actual rendering h
    exact patch_of_lineDiffer_eq_some h

end GoldenFiles.Diff
