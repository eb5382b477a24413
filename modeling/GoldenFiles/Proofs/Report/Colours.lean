import GoldenFiles.Proofs.Diff.Elision
import GoldenFiles.Proofs.Report.Renderings
import GoldenFiles.Proofs.Report.Signals

/-!
# Colours of diffs

The lines of a diff are coloured by their first characters, after two lines that are coloured by
their place as well. The mark in front of a shown line is its first character, whatever follows, and
a line that counts lines left out has none of these marks in front. So colours tell what has become
of each line, even if it looks like a line of the header or like a count. What is written for a
coloured line is its text between the sequences that set the colour and reset it, so that the colour
can be read off the row.

## Main definitions

* `Diff.DiffLine.colour` — the colour that tells what has become of a line
* `Report.painted` — a row of a report in a colour
* `Report.Tinted` — a row that shows a line in the colour that tells what has become of it

## Main results

* `Diff.exists_consoleLines_render` — the lines that a console shows of a rendering
* `Report.diffColour_of_shownAs` — the colour of a line is found by its mark
* `Report.eq_of_render_line` — the colour of a row can be read off
* `Report.tinted_rendering` — a rendering is reported in the colours of what has become of its lines
-/

namespace GoldenFiles

/-! ### Lines of diffs -/

namespace Diff

variable {line : DiffLine} {text : Text} {count : Nat}

/-- A line of a rendering as a console shows it. -/
def DiffLine.ShownAs (line : DiffLine) (text : Text) : Prop :=
  Text.ShownAs line.spelling text

/-- The colour that tells what has become of a line. -/
def DiffLine.colour : DiffLine → Option Colour
  | .shown ⟨.same, _⟩ => none
  | .shown ⟨.added, _⟩ => some .green
  | .shown ⟨.removed, _⟩ => some .red
  | .elided _ => some .cyan

/-- The mark of a line is shown, since it is no carriage return. -/
theorem DiffLine.ShownAs.exists_mark {tagged : TaggedLine}
    (h : (DiffLine.shown tagged).ShownAs text) :
    ∃ rest, text = tagged.tag.mark :: rest := by
  have hmark : tagged.tag.mark ≠ '\r' := by cases tagged.tag <;> decide
  rw [ShownAs, ← text_eq] at h
  rcases h with rfl | h
  · exact ⟨tagged.line, rfl⟩
  · cases text with
    | nil => exact absurd (List.cons.inj h).1 hmark
    | cons c rest => exact ⟨rest, by rw [(List.cons.inj h).1]⟩

theorem DiffLine.ShownAs.elided (h : (DiffLine.elided count).ShownAs text) :
    text = "@@ ".toList ++ Text.ofNat count ++ " unchanged lines @@".toList := by
  refine Text.ShownAs.eq_of_getLast? h ?_
  rw [List.getLast?_append_of_ne_nil _ (by decide)]
  decide

/-- No line looks like one that is written with a colour. -/
theorem DiffLine.ShownAs.head?_ne (h : line.ShownAs text) : text.head? ≠ some escape := by
  cases line with
  | shown tagged =>
    obtain ⟨rest, rfl⟩ := h.exists_mark
    cases tagged.tag <;> exact fun hmark => absurd (Option.some.inj hmark) (by decide)
  | elided count =>
    rw [h.elided]
    exact fun hmark => absurd (Option.some.inj hmark) (by decide)

/-- What a console shows of a rendering are its header and its lines, each as one line. -/
theorem exists_consoleLines_render {label expected actual : Text} (context : Nat)
    (hlabel : '\n' ∉ label)
    (h : expected ≠ actual) :
    ∃ lines, Text.consoleLines (render context label expected actual) =
        (headerLines label).map Text.withoutReturn ++ lines ∧
      List.Forall₂ DiffLine.ShownAs (bodyLines context expected actual) lines := by
  obtain ⟨body, last, hbody⟩ :=
    (bodyLines context expected actual).eq_nil_or_concat.resolve_left (bodyLines_ne_nil context h)
  rw [List.concat_eq_append] at hbody
  have hpieces := pieces_render context expected actual hlabel
  rw [hbody, List.map_append, List.map_singleton, ← List.append_assoc] at hpieces
  refine ⟨body.map (Text.withoutReturn ∘ DiffLine.text) ++ [last.text], ?_, ?_⟩
  · rw [Text.consoleLines_of_pieces hpieces last.text_ne_nil, List.map_append, List.map_map,
      List.append_assoc]
  · rw [hbody]
    refine List.rel_append ?_ (.cons (.inl last.text_eq) .nil)
    rw [List.forall₂_map_right_iff, List.forall₂_same]
    intro line _
    rw [DiffLine.ShownAs, ← line.text_eq]
    exact Text.shownAs_withoutReturn line.text

end Diff

namespace Report

variable {line : Diff.DiffLine} {body : List Diff.DiffLine} {text more : Text} {lines : List Text}
  {index : Nat}

/-! ### Rows in colours -/

/-- A row in a colour, for which its digit stands: what sets the colour stands in front of the text,
after a reset, and another reset behind it. -/
def painted (digit : Char) (text : Text) : Text :=
  "\x1b[0m\x1b[3".toList ++ digit :: 'm' :: text ++ "\x1b[0m\n".toList

theorem render_line_none (text : Text) :
    StyledText.render true (Report.line none text) = text ++ ['\n'] := by
  simp [StyledText.render, Report.line, Piece.render]

theorem render_line_some (colour : Colour) (text : Text) :
    StyledText.render true (Report.line (some colour) text) = painted colour.digit text :=
  List.append_assoc (colour.sequence ++ text) resetSequence ['\n']

theorem painted_ne (h : text.head? ≠ some escape) (digit : Char) :
    painted digit more ≠ text ++ ['\n'] := by
  intro heq
  cases text with
  | nil => exact absurd (List.cons.inj heq).1 (by decide)
  | cons c text => exact h (congrArg some (List.cons.inj heq).1.symm)

theorem digit_eq_of_painted {digit digit' : Char} (h : painted digit text = painted digit' more) :
    digit = digit' :=
  Option.some.inj (congrArg (fun row : Text => row[7]?) h)

theorem eq_of_digit {colour colour' : Colour} (h : colour.digit = colour'.digit) :
    colour = colour' := by
  cases colour <;> cases colour' <;> first | rfl | exact absurd h (by decide)

/-- The colour of a row can be read off, if its text does not begin as a colour does. -/
theorem eq_of_render_line {colour colour' : Option Colour} (h : text.head? ≠ some escape)
    (h' : more.head? ≠ some escape)
    (heq : StyledText.render true (Report.line colour text) =
      StyledText.render true (Report.line colour' more)) : colour = colour' := by
  cases colour with
  | none =>
    cases colour' with
    | none => rfl
    | some colour' =>
      rw [render_line_none, render_line_some] at heq
      exact absurd heq.symm (painted_ne h _)
  | some colour =>
    cases colour' with
    | none =>
      rw [render_line_none, render_line_some] at heq
      exact absurd heq (painted_ne h' _)
    | some colour' =>
      rw [render_line_some, render_line_some] at heq
      rw [eq_of_digit (digit_eq_of_painted heq)]

/-- A row shows a line of a rendering and tells what has become of it: the row is green exactly if
the line was added, red if it was removed, cyan if it counts lines left out, and has no colour if it
is unchanged. -/
structure Tinted (line : Diff.DiffLine) (row : Text) : Prop where
  added : (∃ text, line.ShownAs text ∧ row = painted '2' text) ↔
    ∃ content, line = .shown ⟨.added, content⟩
  removed : (∃ text, line.ShownAs text ∧ row = painted '1' text) ↔
    ∃ content, line = .shown ⟨.removed, content⟩
  elided : (∃ text, line.ShownAs text ∧ row = painted '6' text) ↔ ∃ count, line = .elided count
  same : (∃ text, line.ShownAs text ∧ row = text ++ ['\n']) ↔
    ∃ content, line = .shown ⟨.same, content⟩

/-- What has become of a line can be told from its row. -/
theorem tinted_of_shownAs (h : line.ShownAs text) :
    Tinted line (StyledText.render true (Report.line line.colour text)) := by
  have hread (colour : Option Colour) :
      (∃ shown, line.ShownAs shown ∧ StyledText.render true (Report.line line.colour text) =
          StyledText.render true (Report.line colour shown)) ↔ line.colour = colour := by
    constructor
    · rintro ⟨shown, hshown, heq⟩
      exact eq_of_render_line h.head?_ne hshown.head?_ne heq
    · intro hcolour
      exact ⟨text, h, by rw [hcolour]⟩
  have hpainted (colour : Colour) := hread (some colour)
  simp only [render_line_some] at hpainted
  have hbare := hread none
  simp only [render_line_none] at hbare
  constructor
  · refine (hpainted .green).trans ?_
    rcases line with ⟨_ | _ | _, _⟩ | _ <;> simp [Diff.DiffLine.colour]
  · refine (hpainted .red).trans ?_
    rcases line with ⟨_ | _ | _, _⟩ | _ <;> simp [Diff.DiffLine.colour]
  · refine (hpainted .cyan).trans ?_
    rcases line with ⟨_ | _ | _, _⟩ | _ <;> simp [Diff.DiffLine.colour]
  · refine hbare.trans ?_
    rcases line with ⟨_ | _ | _, _⟩ | _ <;> simp [Diff.DiffLine.colour]

/-! ### Colours of diffs -/

/-- Below the header, the colour of a line is found by its mark, whatever follows it. -/
theorem diffColour_of_shownAs (hindex : 2 ≤ index) (h : line.ShownAs text) :
    diffColour index text = line.colour := by
  have hheader : ¬ (index < 2 ∧ ("---".toList.isPrefixOf text ∨ "+++".toList.isPrefixOf text)) :=
    fun hheader => absurd hheader.1 (Nat.not_lt.mpr hindex)
  rw [diffColour, if_neg hheader]
  cases line with
  | shown tagged =>
    obtain ⟨tag, content⟩ := tagged
    obtain ⟨rest, rfl⟩ := h.exists_mark
    cases tag <;> rfl
  | elided count =>
    rw [h.elided]
    rfl

/-- The first two lines are white, whatever they name. -/
theorem diffColour_header {front : Text} (hindex : index < 2)
    (hfront : front = "---".toList ∨ front = "+++".toList) (rest : Text) :
    diffColour index (front ++ rest) = some .white := by
  refine if_pos ⟨hindex, hfront.imp ?_ ?_⟩
  all_goals
    rintro rfl
    exact List.isPrefixOf_iff_prefix.mpr (List.prefix_append _ rest)

theorem exists_tinted (hindex : 2 ≤ index) (h : List.Forall₂ Diff.DiffLine.ShownAs body lines) :
    ∃ rows, StyledText.render true (diffLines index lines) = rows.flatten ∧
      List.Forall₂ Tinted body rows := by
  -- The place of a line matters only for the first two, so the index just has to stay behind them.
  induction h generalizing index with
  | nil => exact ⟨[], rfl, .nil⟩
  | @cons line text body lines hline hlines ih =>
    obtain ⟨rows, hrows, htinted⟩ := ih (Nat.le_succ_of_le hindex)
    refine ⟨_ :: rows, ?_, .cons (tinted_of_shownAs hline) htinted⟩
    rw [diffLines, StyledText.render_append, hrows, List.flatten_cons,
      diffColour_of_shownAs hindex hline]

/-- Colours tell the truth. On a coloured sink, the rendering of two texts that differ is reported
with a white header. Below it every line has its own row: green if it was added, red if it was
removed, cyan if it counts lines left out, and without a colour if it is unchanged, whatever the
lines look like. -/
theorem tinted_rendering {sink : Sink} {label expected actual : Text}
    (hcoloured : sink.coloured = true)
    (hroom : sink.room = none) (context : Nat) (hlabel : '\n' ∉ label) (h : expected ≠ actual) :
    ∃ rendering first second rows left,
      Diff.lineDiffer context label expected actual = some rendering ∧
      rendering = Text.unpieces (["--- expected ".toList ++ label, "+++ actual ".toList ++ label] ++
        (Diff.bodyLines context expected actual).map Diff.DiffLine.spelling) ∧
      sink.write (outcome (.fail (.diff rendering))) = (left, none) ∧
      left.written = sink.written ++ Utf8.encode (painted '7' first ++ painted '7' second ++
        rows.flatten ++ painted '1' "diff ERROR".toList ++ ['\n']) ∧
      Text.ShownAs ("--- expected ".toList ++ label) first ∧
      Text.ShownAs ("+++ actual ".toList ++ label) second ∧
      List.Forall₂ Tinted (Diff.bodyLines context expected actual) rows := by
  obtain ⟨lines, hconsole, hshown⟩ := Diff.exists_consoleLines_render context hlabel h
  obtain ⟨rows, hrows, htinted⟩ := exists_tinted (Nat.le_refl 2) hshown
  have hexpected :
      diffColour 0 (Text.withoutReturn ("--- expected ".toList ++ label)) = some .white := by
    have hsplit :
        "--- expected ".toList ++ label = "---".toList ++ (" expected ".toList ++ label) :=
      rfl
    rw [hsplit, Text.withoutReturn_append _ (by simp)]
    exact diffColour_header (by decide) (.inl rfl) _
  have hactual :
      diffColour 1 (Text.withoutReturn ("+++ actual ".toList ++ label)) = some .white := by
    have hsplit :
        "+++ actual ".toList ++ label = "+++".toList ++ (" actual ".toList ++ label) := rfl
    rw [hsplit, Text.withoutReturn_append _ (by simp)]
    exact diffColour_header (by decide) (.inr rfl) _
  have hdiff : StyledText.render true (diff (Diff.render context label expected actual)) =
      painted '7' (Text.withoutReturn ("--- expected ".toList ++ label)) ++
        painted '7' (Text.withoutReturn ("+++ actual ".toList ++ label)) ++ rows.flatten := by
    rw [diff, hconsole, Diff.headerLines, List.map_cons, List.map_singleton, List.cons_append,
      List.singleton_append, diffLines, diffLines, hexpected, hactual, StyledText.render_append,
      StyledText.render_append, hrows, render_line_some, render_line_some, List.append_assoc]
    rfl
  refine ⟨Diff.render context label expected actual, _, _, rows, _, ?_, ?_,
    Sink.write_of_unlimited hroom, ?_, Text.shownAs_withoutReturn _, Text.shownAs_withoutReturn _,
    htinted⟩
  · rw [Diff.lineDiffer_eq, if_neg h]
  · rw [Diff.render, Diff.headerLines, funext Diff.DiffLine.text_eq]
  · have hfailure : StyledText.render true failureLine = painted '1' "diff ERROR".toList :=
      render_line_some .red _
    have hempty : StyledText.render true [⟨none, ['\n']⟩] = ['\n'] := rfl
    rw [Sink.add, hcoloured, outcome, status, StyledText.render_append, StyledText.render_append,
      hdiff, hfailure, hempty]

/-- Lines that look like the header behind their marks, and an unchanged one that looks like a
count. -/
theorem tinted_rendering_imitation :
    let expected := "-- expected f\n@@ 1 unchanged lines @@\n".toList
    let actual := "++ actual f\n@@ 1 unchanged lines @@\n".toList
    '\n' ∉ "f".toList ∧ expected ≠ actual ∧
    ∃ rendering left, Diff.lineDiffer 3 "f".toList expected actual = some rendering ∧
      ({ coloured := true } : Sink).write (outcome (.fail (.diff rendering))) = (left, none) ∧
      left.written = Utf8.encode ("\x1b[0m\x1b[37m--- expected f\x1b[0m\n".toList ++
        "\x1b[0m\x1b[37m+++ actual f\x1b[0m\n".toList ++
        "\x1b[0m\x1b[31m--- expected f\x1b[0m\n".toList ++
        "\x1b[0m\x1b[32m+++ actual f\x1b[0m\n".toList ++
        " @@ 1 unchanged lines @@\n".toList ++
        "\x1b[0m\x1b[31mdiff ERROR\x1b[0m\n\n".toList) := by
  intro expected actual
  have hlabel : '\n' ∉ "f".toList := by decide
  have hne : expected ≠ actual := by decide
  have hcoloured : ({ coloured := true } : Sink).coloured = true := rfl
  have hbody : Diff.bodyLines 3 expected actual = [.shown ⟨.removed, "-- expected f".toList⟩,
      .shown ⟨.added, "++ actual f".toList⟩, .shown ⟨.same, "@@ 1 unchanged lines @@".toList⟩] := by
    decide +kernel
  obtain ⟨rendering, first, second, rows, left, hdiffer, -, hwrite, hwritten, hfirst, hsecond,
    htinted⟩ :=
    tinted_rendering hcoloured rfl 3 hlabel hne
  rw [hbody] at htinted
  obtain - | @⟨-, removed, -, -, hremoved, - | @⟨-, added, -, -, hadded,
    - | @⟨-, same, -, -, hsame, ⟨⟩⟩⟩⟩ := htinted
  obtain ⟨removedText, hremovedText, rfl⟩ := hremoved.removed.mpr ⟨_, rfl⟩
  obtain ⟨addedText, haddedText, rfl⟩ := hadded.added.mpr ⟨_, rfl⟩
  obtain ⟨sameText, hsameText, rfl⟩ := hsame.same.mpr ⟨_, rfl⟩
  rw [hfirst.eq_of_getLast? (by decide), hsecond.eq_of_getLast? (by decide),
    Text.ShownAs.eq_of_getLast? hremovedText (by decide),
    Text.ShownAs.eq_of_getLast? haddedText (by decide),
    Text.ShownAs.eq_of_getLast? hsameText (by decide)] at hwritten
  exact ⟨hlabel, hne, rendering, left, hdiffer, hwrite, hwritten⟩

end Report

end GoldenFiles
