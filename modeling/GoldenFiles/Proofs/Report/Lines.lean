import GoldenFiles.Proofs.Diff.Rebuilding
import GoldenFiles.Proofs.Run.Steps
import GoldenFiles.Proofs.Text.ConsoleLines

/-!
# Lines of reports

Without colours, a report is a row of lines that are all ended. The block of a case has its header,
the details of a failure, the status of the case and an empty line. Details show what is in the
fixture and in the output, or tell which fixture is missing, and each of them begins with a mark
with which neither a header nor a status nor a verdict begins. So the headers and the statuses among
the lines of a report can be counted, whatever texts are shown between them.

## Main definitions

* `StyledText.HasLines` — the lines of a text
* `Report.statusLine`, `Report.detailLines` — how a case ended, and what is shown of a failure
* `Report.blockLines`, `Report.bannerLine` — the lines of the block of a case, and the verdict on
  all cases
* `Report.IsDetail` — lines that are not broken and begin with the mark of a detail

## Main results

* `Report.isDetail_of_mem_consoleLines` — every line of a rendering is a detail
* `Report.filter_blockLines`, `Report.count_blockLines` — the headers and the statuses of blocks
-/

namespace GoldenFiles

/-! ### Texts of whole lines -/

/-- Without colours, the text is these lines, and all of them are ended. -/
def StyledText.HasLines (text : StyledText) (lines : List Text) : Prop :=
  text.render false = lines.flatMap (· ++ ['\n'])

namespace StyledText

variable {text more : StyledText} {lines others : List Text}

theorem hasLines_nil : HasLines [] [] := rfl

theorem HasLines.append (h : text.HasLines lines) (h' : more.HasLines others) :
    (text ++ more).HasLines (lines ++ others) := by
  rw [HasLines, List.flatMap_append, ← h, ← h']
  exact List.flatMap_append

theorem hasLines_flatMap {α : Type} {rows : List α} {part : α → StyledText} {parts : α → List Text}
    (h : ∀ row ∈ rows, (part row).HasLines (parts row)) :
    HasLines (rows.flatMap part) (rows.flatMap parts) := by
  induction rows with
  | nil => exact hasLines_nil
  | cons row rest ih =>
    obtain ⟨hrow, hrest⟩ := List.forall_mem_cons.mp h
    rw [List.flatMap_cons, List.flatMap_cons]
    exact hrow.append (ih hrest)

end StyledText

namespace Report

/-! ### Lines of a block -/

/-- What headers begin with. -/
def headerMark : Text := "Testing ".toList

/-- The line that names the source of a case. -/
def headerLine (labelRoot fileName : Text) : Text := headerMark ++ (labelRoot ++ '/' :: fileName)

/-- The line that tells how a case ended. -/
def statusLine : Outcome → Text
  | .created => "Created".toList
  | .pass => "diff OK".toList
  | .fail _ => "diff ERROR".toList

/-- The lines that show why a case failed. -/
def detailLines : Outcome → List Text
  | .created | .pass => []
  | .fail (.diff rendering) => Text.consoleLines rendering
  | .fail (.missingFixture path) =>
    ["missing fixture ".toList ++ path.text ++ " (rerun with --create to generate it)".toList]

/-- The lines of the block of a case. -/
def blockLines (labelRoot : Text) (case : TestCase) (outcome : Outcome) : List Text :=
  headerLine labelRoot case.fileName :: (detailLines outcome ++ [statusLine outcome, []])

/-- The verdict on all cases. -/
def bannerLine (summary : Summary) : Text :=
  if summary.isSuccess then "[ SUCCESS ]".toList
  else "ERROR: ".toList ++ Text.ofNat summary.failed ++ " fixture tests failed".toList

theorem hasLines_line (colour : Option Colour) (text : Text) :
    (line colour text).HasLines [text] := by
  cases colour <;> simp [StyledText.HasLines, StyledText.render, Piece.render, Report.line]

theorem hasLines_diffLines (index : Nat) (lines : List Text) :
    (diffLines index lines).HasLines lines := by
  induction lines generalizing index with
  | nil => exact StyledText.hasLines_nil
  | cons text rest ih => exact (hasLines_line _ text).append (ih (index + 1))

theorem hasLines_status (outcome : Outcome) :
    (status outcome).HasLines (detailLines outcome ++ [statusLine outcome]) := by
  cases outcome with
  | created => exact hasLines_line _ _
  | pass => exact hasLines_line _ _
  | fail failure =>
    cases failure with
    | diff rendering => exact (hasLines_diffLines 0 _).append (hasLines_line _ _)
    | missingFixture path => exact (hasLines_line _ _).append (hasLines_line _ _)

theorem hasLines_block (labelRoot : Text) (case : TestCase) (outcome : Outcome) :
    (block labelRoot case outcome).HasLines (blockLines labelRoot case outcome) := by
  have hempty : StyledText.HasLines [⟨none, ['\n']⟩] [[]] := rfl
  have hblock := (hasLines_line (some .white) (headerLine labelRoot case.fileName)).append
    ((hasLines_status outcome).append hempty)
  rwa [List.append_assoc] at hblock

theorem hasLines_banner (summary : Summary) : (banner summary).HasLines [bannerLine summary] := by
  unfold banner bannerLine
  by_cases h : summary.isSuccess = true
  · rw [if_pos h, if_pos h]
    rfl
  · rw [if_neg h, if_neg h]
    simp [StyledText.HasLines, StyledText.render, Piece.render]

variable {labelRoot : Text} {case : TestCase} {outcome : Outcome} {line : Text} {summary : Summary}
  {ended : List (TestCase × CaseResult)}

/-! ### Details -/

/-- The marks with which details begin: those of removed, added, unchanged and left out lines, and
the letter with which a missing fixture is told of. -/
def detailMarks : List Char := "-+ @m".toList

/-- A line that is not broken and begins with the mark of a detail. -/
def IsDetail (line : Text) : Prop := '\n' ∉ line ∧ ∃ mark ∈ detailMarks, line.head? = some mark

theorem IsDetail.cons {mark : Char} {rest : Text} (hmark : mark ∈ detailMarks)
    (h : '\n' ∉ mark :: rest) :
    IsDetail (mark :: rest) :=
  ⟨h, mark, hmark, rfl⟩

theorem isDetail_diffLine_text {diffLine : Diff.DiffLine} (h : '\n' ∉ diffLine.text) :
    IsDetail diffLine.text := by
  cases diffLine with
  | shown shown =>
    refine .cons ?_ h
    cases shown.tag <;> decide
  | elided count => exact .cons (by decide) h

/-- Dropping the carriage return at the end leaves the mark where it is. -/
theorem IsDetail.withoutReturn (h : IsDetail line) : IsDetail (Text.withoutReturn line) := by
  obtain ⟨hbreak, mark, hmark, hhead⟩ := h
  obtain ⟨rest, rfl⟩ := List.head?_eq_some_iff.mp hhead
  have hreturn : mark ≠ '\r' := by
    rintro rfl
    revert hmark
    decide
  obtain ⟨kept, hkept, heq⟩ := Text.exists_withoutReturn_cons rest hreturn
  rw [heq]
  exact .cons hmark fun hmem => hbreak (List.cons_subset_cons mark hkept hmem)

/-- Every line of a rendering is a detail, if the label is not broken. -/
theorem isDetail_of_mem_consoleLines {context : Nat} {label expected actual : Text}
    (hlabel : '\n' ∉ label)
    (h : line ∈ Text.consoleLines (Diff.render context label expected actual)) : IsDetail line := by
  have hheader : ∀ line ∈ Diff.headerLines label, IsDetail line := by
    refine List.forall_mem_cons.mpr ⟨⟨?_, '-', by decide, rfl⟩, List.forall_mem_singleton.mpr
      ⟨?_, '+', by decide, rfl⟩⟩
    · simp [hlabel]
    · simp [hlabel]
  have hbody :
      ∀ line ∈ (Diff.bodyLines context expected actual).map Diff.DiffLine.text, IsDetail line := by
    intro line hline
    have hbreak := Diff.lineFeed_notMem_of_mem_bodyLines hline
    obtain ⟨diffLine, -, rfl⟩ := List.mem_map.mp hline
    exact isDetail_diffLine_text hbreak
  have hlines := List.forall_mem_append.mpr ⟨hheader, hbody⟩
  rw [← Diff.pieces_render context expected actual hlabel] at hlines
  rcases List.mem_append.mp h with h | h
  · obtain ⟨piece, hpiece, rfl⟩ := List.mem_map.mp h
    exact (hlines piece (List.dropLast_subset _ hpiece)).withoutReturn
  · split at h
    · cases h
    · exact hlines line (List.mem_of_getLast? (Option.mem_toList.mp h))

theorem isDetail_missing {path : Path} (hpath : '\n' ∉ path.text) :
    ∀ line ∈ detailLines (.fail (.missingFixture path)), IsDetail line := by
  refine List.forall_mem_singleton.mpr ⟨?_, 'm', by decide, rfl⟩
  simp [hpath]

/-! ### Headers and statuses -/

/-- Whether a line is the header of a case. -/
def isHeader (line : Text) : Bool := headerMark.isPrefixOf line

theorem isHeader_headerLine (labelRoot fileName : Text) :
    isHeader (headerLine labelRoot fileName) :=
  List.isPrefixOf_iff_prefix.mpr (List.prefix_append _ _)

/-- What begins with another character is no header. -/
theorem isHeader_eq_false {first : Char} (hhead : line.head? = some first) (hfirst : first ≠ 'T') :
    isHeader line = false := by
  obtain ⟨rest, rfl⟩ := List.head?_eq_some_iff.mp hhead
  have hmark : headerMark = 'T' :: "esting ".toList := rfl
  rw [Bool.eq_false_iff, isHeader, Ne, List.isPrefixOf_iff_prefix, hmark, List.cons_prefix_cons]
  exact fun hprefix => hfirst hprefix.1.symm

theorem IsDetail.isHeader_eq_false (h : IsDetail line) : isHeader line = false := by
  obtain ⟨-, mark, hmark, hhead⟩ := h
  refine Report.isHeader_eq_false hhead ?_
  rintro rfl
  revert hmark
  decide

/-- Statuses begin with one of two letters. -/
theorem head?_statusLine (outcome : Outcome) :
    (statusLine outcome).head? = some 'C' ∨ (statusLine outcome).head? = some 'd' := by
  cases outcome with
  | created => exact .inl rfl
  | pass => exact .inr rfl
  | fail failure => exact .inr rfl

theorem isHeader_statusLine (outcome : Outcome) : isHeader (statusLine outcome) = false := by
  rcases head?_statusLine outcome with hhead | hhead
  · exact isHeader_eq_false hhead (by decide)
  · exact isHeader_eq_false hhead (by decide)

theorem not_isDetail_statusLine (outcome : Outcome) : ¬ IsDetail (statusLine outcome) := by
  rintro ⟨-, mark, hmark, hhead⟩
  have hstatus := head?_statusLine outcome
  rw [hhead, Option.some.injEq, Option.some.injEq] at hstatus
  rcases hstatus with rfl | rfl <;> revert hmark <;> decide

/-- A block has the header of its case and no other one. -/
theorem filter_blockLines (h : ∀ line ∈ detailLines outcome, IsDetail line) :
    (blockLines labelRoot case outcome).filter isHeader = [headerLine labelRoot case.fileName] := by
  have hdetails : (detailLines outcome).filter isHeader = [] := by
    rw [List.filter_eq_nil_iff]
    intro line hline
    rw [(h line hline).isHeader_eq_false]
    exact Bool.false_ne_true
  rw [blockLines, List.filter_cons_of_pos (isHeader_headerLine _ _), List.filter_append, hdetails,
    List.filter_cons_of_neg (by simp [isHeader_statusLine])]
  rfl

/-- A block has the status of its case and no other one. -/
theorem count_blockLines (h : ∀ line ∈ detailLines outcome, IsDetail line) (other : Outcome) :
    (blockLines labelRoot case outcome).count (statusLine other) =
      if statusLine outcome = statusLine other then 1 else 0 := by
  have hheader : headerLine labelRoot case.fileName ≠ statusLine other := by
    intro heq
    have hstatus := isHeader_statusLine other
    rw [← heq, isHeader_headerLine] at hstatus
    cases hstatus
  have hdetails : (detailLines outcome).count (statusLine other) = 0 := by
    rw [List.count_eq_zero]
    exact fun hmem => not_isDetail_statusLine other (h _ hmem)
  have hempty : [] ≠ statusLine other := by
    intro heq
    have hhead := head?_statusLine other
    rw [← heq] at hhead
    simp at hhead
  rw [blockLines, List.count_cons_of_ne hheader, List.count_append, hdetails, List.count_cons,
    List.count_cons_of_ne hempty]
  simp

/-! ### Whole reports -/

/-- The lines of the blocks of cases with their results, and of the verdict on them. -/
def reportLines (labelRoot : Text) (ended : List (TestCase × CaseResult)) (summary : Summary) :
    List Text :=
  (ended.flatMap fun e => blockLines labelRoot e.1 e.2.outcome) ++ [bannerLine summary]

theorem hasLines_report (labelRoot : Text) (ended : List (TestCase × CaseResult))
    (summary : Summary) :
    StyledText.HasLines ((ended.flatMap fun e => block labelRoot e.1 e.2.outcome) ++ banner summary)
      (reportLines labelRoot ended summary) :=
  (StyledText.hasLines_flatMap fun e _ => hasLines_block labelRoot e.1 e.2.outcome).append
    (hasLines_banner summary)

theorem head?_bannerLine (summary : Summary) :
    (bannerLine summary).head? = some '[' ∨ (bannerLine summary).head? = some 'E' := by
  unfold bannerLine
  by_cases h : summary.isSuccess = true
  · rw [if_pos h]
    exact .inl rfl
  · rw [if_neg h]
    exact .inr rfl

theorem isHeader_bannerLine (summary : Summary) : isHeader (bannerLine summary) = false := by
  rcases head?_bannerLine summary with hhead | hhead
  · exact isHeader_eq_false hhead (by decide)
  · exact isHeader_eq_false hhead (by decide)

theorem bannerLine_ne_statusLine (summary : Summary) (outcome : Outcome) :
    bannerLine summary ≠ statusLine outcome := by
  intro heq
  have hbanner := head?_bannerLine summary
  rw [heq] at hbanner
  rcases head?_statusLine outcome with hhead | hhead <;> rw [hhead] at hbanner <;>
    revert hbanner <;> decide

/-- The headers of a report name its cases in their order. -/
theorem filter_reportLines (h : ∀ e ∈ ended, ∀ line ∈ detailLines e.2.outcome, IsDetail line) :
    (reportLines labelRoot ended summary).filter isHeader =
      ended.map fun e => headerLine labelRoot e.1.fileName := by
  have hblocks : (ended.flatMap fun e => blockLines labelRoot e.1 e.2.outcome).filter isHeader =
      ended.map fun e => headerLine labelRoot e.1.fileName := by
    induction ended with
    | nil => rfl
    | cons e rest ih =>
      obtain ⟨he, hrest⟩ := List.forall_mem_cons.mp h
      rw [List.flatMap_cons, List.filter_append, filter_blockLines he, ih hrest]
      rfl
  rw [reportLines, List.filter_append, hblocks,
    List.filter_cons_of_neg (by simp [isHeader_bannerLine]), List.filter_nil, List.append_nil]

/-- A status stands in a report as often as a case has it. -/
theorem count_reportLines (h : ∀ e ∈ ended, ∀ line ∈ detailLines e.2.outcome, IsDetail line)
    (other : Outcome) :
    (reportLines labelRoot ended summary).count (statusLine other) =
      ended.countP fun e => statusLine e.2.outcome = statusLine other := by
  have hblocks :
      (ended.flatMap fun e => blockLines labelRoot e.1 e.2.outcome).count (statusLine other) =
      ended.countP fun e => statusLine e.2.outcome = statusLine other := by
    induction ended with
    | nil => rfl
    | cons e rest ih =>
      obtain ⟨he, hrest⟩ := List.forall_mem_cons.mp h
      rw [List.flatMap_cons, List.count_append, count_blockLines he, ih hrest, List.countP_cons,
        Nat.add_comm]
      simp only [decide_eq_true_eq]
  rw [reportLines, List.count_append, hblocks, List.count_singleton,
    if_neg (by simpa using (bannerLine_ne_statusLine summary other)), Nat.add_zero]

theorem lineFeed_notMem_statusLine (outcome : Outcome) : '\n' ∉ statusLine outcome := by
  cases outcome with
  | created => decide
  | pass => decide
  | fail failure =>
    change '\n' ∉ "diff ERROR".toList
    decide

theorem lineFeed_notMem_bannerLine (summary : Summary) : '\n' ∉ bannerLine summary := by
  unfold bannerLine
  by_cases h : summary.isSuccess = true
  · rw [if_pos h]
    decide
  · rw [if_neg h]
    simp [Text.lineFeed_notMem_ofNat]

/-- No line of a report is broken, if the names in its headers are not. -/
theorem lineFeed_notMem_of_mem_reportLines (hlabel : '\n' ∉ labelRoot)
    (hnames : ∀ e ∈ ended, '\n' ∉ e.1.fileName)
    (h : ∀ e ∈ ended, ∀ line ∈ detailLines e.2.outcome, IsDetail line)
    (hline : line ∈ reportLines labelRoot ended summary) : '\n' ∉ line := by
  have hmark : '\n' ∉ headerMark := by decide
  rcases List.mem_append.mp hline with hline | hline
  · obtain ⟨e, he, hline⟩ := List.mem_flatMap.mp hline
    simp only [blockLines, List.mem_cons, List.mem_append, List.not_mem_nil, or_false] at hline
    rcases hline with rfl | hline | rfl | rfl
    · simp [headerLine, hmark, hlabel, hnames e he]
    · exact (h e he line hline).1
    · exact lineFeed_notMem_statusLine e.2.outcome
    · exact List.not_mem_nil
  · rw [List.mem_singleton.mp hline]
    exact lineFeed_notMem_bannerLine summary

/-! ### Counts -/

theorem statusLine_eq_created_iff :
    statusLine outcome = statusLine .created ↔ outcome = .created := by
  cases outcome with
  | created => exact iff_of_true rfl rfl
  | pass => exact iff_of_false (by decide) nofun
  | fail failure => exact iff_of_false (show "diff ERROR".toList ≠ "Created".toList by decide) nofun

theorem statusLine_eq_pass_iff : statusLine outcome = statusLine .pass ↔ outcome = .pass := by
  cases outcome with
  | created => exact iff_of_false (by decide) nofun
  | pass => exact iff_of_true rfl rfl
  | fail failure => exact iff_of_false (show "diff ERROR".toList ≠ "diff OK".toList by decide) nofun

theorem statusLine_eq_fail_iff (failure : Failure) :
    statusLine outcome = statusLine (.fail failure) ↔ outcome.isFailure = true := by
  cases outcome with
  | created => exact iff_of_false (show "Created".toList ≠ "diff ERROR".toList by decide) nofun
  | pass => exact iff_of_false (show "diff OK".toList ≠ "diff ERROR".toList by decide) nofun
  | fail failure => exact iff_of_true rfl rfl

/-- What the lines of the report on some cases tell of them. -/
structure Tells (labelRoot : Text) (cases : List TestCase) (summary : Summary) (lines : List Text) :
    Prop where
  /-- Lines that begin like a header are the headers of the cases in their order. -/
  headers : lines.filter ("Testing ".toList.isPrefixOf ·) =
    cases.map fun case => "Testing ".toList ++ (labelRoot ++ '/' :: case.fileName)
  total : summary.total = cases.length
  created : lines.count "Created".toList = summary.created
  passed : lines.count "diff OK".toList = summary.passed
  failed : lines.count "diff ERROR".toList = summary.failed
  outcomes : summary.created + summary.passed + summary.failed = summary.total
  success : lines.getLast? = some "[ SUCCESS ]".toList ↔ summary.exitCode = 0
  failure : summary.exitCode ≠ 0 → lines.getLast? =
    some ("ERROR: ".toList ++ Text.ofNat summary.failed ++ " fixture tests failed".toList)

theorem bannerLine_eq_success_iff :
    bannerLine summary = "[ SUCCESS ]".toList ↔ summary.exitCode = 0 := by
  unfold bannerLine Summary.exitCode
  by_cases h : summary.isSuccess = true
  · simp only [if_pos h]
  · rw [if_neg h, if_neg h]
    refine iff_of_false (fun heq => ?_) (by decide)
    have hhead : some 'E' = some '[' := congrArg List.head? heq
    cases hhead

theorem bannerLine_of_exitCode (h : summary.exitCode ≠ 0) : bannerLine summary =
    "ERROR: ".toList ++ Text.ofNat summary.failed ++ " fixture tests failed".toList := by
  refine if_neg fun hsuccess => h ?_
  rw [Summary.exitCode, if_pos hsuccess]

/-- The lines of a report tell what has become of its cases. -/
theorem tells_reportLines (h : ∀ e ∈ ended, ∀ line ∈ detailLines e.2.outcome, IsDetail line) :
    Tells labelRoot (ended.map Prod.fst) (.ofResults (ended.map Prod.snd))
      (reportLines labelRoot ended (.ofResults (ended.map Prod.snd))) := by
  have hlast (summary : Summary) :
      (reportLines labelRoot ended summary).getLast? = some (bannerLine summary) :=
    List.getLast?_concat
  have hcounts := Summary.foldl_record (ended.map Prod.snd) {}
  rw [← Summary.ofResults] at hcounts
  refine ⟨?_, ?_, ?_, ?_, ?_, Summary.outcomes_ofResults _, ?_, ?_⟩
  · rw [List.map_map]
    exact filter_reportLines h
  · simp [hcounts]
  · refine (count_reportLines h .created).trans ?_
    simp [hcounts, statusLine_eq_created_iff, List.countP_map, Function.comp_def]
  · refine (count_reportLines h .pass).trans ?_
    simp [hcounts, statusLine_eq_pass_iff, List.countP_map, Function.comp_def]
  · refine (count_reportLines h (.fail (.diff []))).trans ?_
    simp [hcounts, statusLine_eq_fail_iff, List.countP_map, Function.comp_def]
  · rw [hlast, Option.some.injEq, bannerLine_eq_success_iff]
  · exact fun hexit => (hlast _).trans (congrArg some (bannerLine_of_exitCode hexit))

end Report

end GoldenFiles
