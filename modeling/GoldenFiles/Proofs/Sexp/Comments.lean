import GoldenFiles.Proofs.Discovery.Sources
import GoldenFiles.Proofs.Run.LineEndings
import GoldenFiles.Proofs.Sexp.Stability

/-!
# Comments about cases

The output of a case is its program, printed, with a comment behind it for every diagnostic.
Messages break no line, whatever characters they quote. File systems allow line breaks in names,
though, and names are displayed as they are: a comment is one line exactly if no name between the
test root and the source holds a line break. An output whose comments are one line each is read back
as the program of the source.

## Main results

* `comments_of_discovered` — the output of a case that has been discovered
* `not_forall_comment_unbroken` — a case whose comment is two lines, one of which is read back as
  forms
-/

namespace GoldenFiles.Sexp

/-! ### Outputs of cases -/

theorem WholeLines.pieces_append {text : Text} (h : WholeLines text) (more : Text) :
    Text.pieces (text ++ more) = (Text.pieces text).dropLast ++ Text.pieces more := by
  obtain ⟨first, others, hmore⟩ := List.exists_cons_of_ne_nil (Text.pieces_ne_nil more)
  have htext := (List.dropLast_append_getLast? _ (Text.getLast?_pieces_iff.mpr h)).symm
  rw [Text.pieces_append htext hmore, List.nil_append, hmore]

/-- The comments about a source under a file name, one for each diagnostic. -/
def comments (source filename : Text) : List Text :=
  (parse source filename).diagnostics.map fun d => "; ".toList ++ d.text

theorem round_eq_comments (limit : Nat) (filename source : Text) :
    round limit filename source = printProgram Text.displayWidth limit (program source) ++
      (comments source filename).flatMap (· ++ ['\n']) := by
  rw [round_eq, renderOutput, flatMap_commentLine]
  rfl

/-- What is said about a source, by its lexemes. -/
theorem comments_eq_map_complaints (source filename : Text) :
    comments source filename = (complaints [] (lexemes source)).map fun located =>
      "; ".toList ++ (Problem.diagnostic filename located).text := by
  have hdiagnostics : (parse source filename).diagnostics = diagnostics source filename := rfl
  rw [comments, hdiagnostics, diagnostics_eq, List.map_map]
  rfl

theorem unbroken_of_mem_comments {source filename comment : Text}
    (h : comment ∈ comments source filename) : Unbroken comment ↔ Unbroken filename := by
  obtain ⟨d, hd, rfl⟩ := List.mem_map.mp h
  rw [unbroken_append, d.unbroken_text_iff, filename_of_mem_diagnostics hd]
  exact and_iff_right (by decide)

/-- Behind the lines of the printed program there is a line for each comment, if the name of the
file does not break them. -/
theorem pieces_round {limit : Nat} {filename source : Text} (h : '\n' ∉ filename) :
    Text.pieces (round limit filename source) =
      (Text.pieces (printProgram Text.displayWidth limit (program source))).dropLast ++
        (comments source filename ++ [[]]) := by
  rw [round_eq, renderOutput, (wholeLines_printProgram _ _ _).pieces_append,
    pieces_commentLines (by decide) (lineFeed_notMem_text_of_mem_diagnostics h)]
  rfl

theorem count_lineFeed_round (limit : Nat) (filename source : Text) :
    (round limit filename source).count '\n' =
      (printProgram Text.displayWidth limit (program source)).count '\n' +
        (comments source filename).length * (filename.count '\n' + 1) := by
  have hfound : ∀ d ∈ diagnostics source filename, d.filename = filename :=
    fun d hd => filename_of_mem_diagnostics hd
  rw [round_eq, renderOutput, List.count_append, count_lineFeed_commentLines (by decide) hfound,
    comments, List.length_map]
  rfl

/-- The output of a case that has been discovered is its program, printed, with a comment behind it
for every diagnostic. A comment holds a line break exactly if one of the names does that lead from
the test root to the source, and takes one line more for every line feed in them. Where there is
none, every comment is one line, and reading the output gives the program of the source and nothing
more. -/
theorem comments_of_discovered (limit : Nat) {fs files : FileSystem} {root : Path}
    {extension source : Text} {cases : List TestCase} {case : TestCase}
    (h : discover fs root extension = .ok cases) (hcase : case ∈ cases)
    (hsource : files.fileText case.source = .ok source) :
    let text := Text.normalize source
    let printed := printProgram Text.displayWidth limit (parse text case.fileName).program
    let output := printed ++ (comments text case.fileName).flatMap (· ++ ['\n'])
    caseOutput (pipeline limit) files () case = .ok (output, ()) ∧
    (∀ comment ∈ comments text case.fileName, Unbroken comment ↔ Unbroken case.fileName) ∧
    (∃ names, case.source = root.below names ∧
      ('\n' ∈ case.fileName ↔ ∃ name ∈ names, 10 ∈ name.bytes) ∧
      ('\r' ∈ case.fileName ↔ ∃ name ∈ names, 13 ∈ name.bytes)) ∧
    output.count '\n' = printed.count '\n' +
      (comments text case.fileName).length * (case.fileName.count '\n' + 1) ∧
    ('\n' ∉ case.fileName →
      Text.pieces output = (Text.pieces printed).dropLast ++ (comments text case.fileName ++ [[]]) ∧
        ∀ filename, (parse output filename).program = (parse text case.fileName).program) := by
  intro text printed output
  have houtput : round limit case.fileName text = output :=
    round_eq_comments limit case.fileName text
  refine ⟨?_, fun comment h => unbroken_of_mem_comments h, ?_, ?_, fun hname => ⟨?_, ?_⟩⟩
  · rw [← houtput]
    exact caseOutput_of_fileText (p := pipeline limit) () hsource
  · obtain ⟨names, hnames⟩ := exists_named h hcase
    exact ⟨names, hnames.source, hnames.mem_fileName_iff (b := 10) (by decide) (by decide),
      hnames.mem_fileName_iff (b := 13) (by decide) (by decide)⟩
  · rw [← houtput]
    exact count_lineFeed_round limit case.fileName text
  · rw [← houtput]
    exact pieces_round hname
  · intro filename
    rw [← houtput]
    exact program_round hname

/-! ### Sources by their names -/

open Harness (caseOf directoryT)

/-- The directory with one source, under the given name. -/
def holdingAs (name : Name) (text : Text) : FileSystem :=
  (FileSystem.empty.put directoryT .directory).put (name :: directoryT) (.file (Utf8.encode text))

/-- That source is found, whatever its name is. -/
theorem walk_holdingAs (name : Name) (text : Text) :
    (holdingAs name text).walk (.ofText "t".toList) = .ok [⟨.ofText "t".toList, [], name⟩] := by
  let bare : FileSystem := FileSystem.empty.put directoryT .directory
  have hvacant : bare.lookup (name :: directoryT) = none := by
    have hentries : bare.entries = [(directoryT, .directory)] := rfl
    rw [FileSystem.lookup, if_neg (List.cons_ne_nil _ _), hentries]
    simp [entryAt, directoryT]
  have hlocate : bare.locate true (.ofText "t".toList) = .ok (.found directoryT maxLinks) := by
    cbv
  have hempty : bare.children directoryT = [] :=
    FileSystem.children_eq_of_perm (by decide) (by decide)
  obtain ⟨front, behind, hbare, hnames⟩ :=
    FileSystem.children_put_of_none hvacant (.file (Utf8.encode text))
  obtain ⟨rfl, rfl⟩ := List.append_eq_nil_iff.mp (hbare.symm.trans hempty)
  have htakes : bare.Takes (name :: directoryT) := .inl hvacant
  have hentry : (holdingAs name text).lookup (name :: directoryT) =
      some (.file (Utf8.encode text)) :=
    (FileSystem.lookup_put htakes _).trans (if_pos rfl)
  have hdir : (holdingAs name text).isDirectory directoryT = true := by
    rw [holdingAs, FileSystem.isDirectory_put htakes]
    rfl
  exact FileSystem.walk_of_children (FileSystem.locate_put htakes hlocate) hdir hnames
    (List.forall_mem_singleton.mpr (.file hentry))

/-- The name of a source that breaks. -/
def brokenName : Name := .ofText "a\nb.s".toList

/-- The directory with one source, in which four things are wrong. -/
def fourFaults : FileSystem := holdingAs (.ofText "a.s".toList) ")(f \"\\q".toList

/-- Four comments about one line, one of which quotes it, and the program that is read back. -/
theorem comments_of_discovered_fourFaults :
    discover fourFaults (.ofText "t".toList) "s".toList = .ok [caseOf "a"] ∧
      fourFaults.fileText (caseOf "a").source = .ok ")(f \"\\q".toList ∧
      '\n' ∉ (caseOf "a").fileName ∧
      ∃ output, caseOutput (pipeline 80) fourFaults () (caseOf "a") = .ok (output, ()) ∧
        comments ")(f \"\\q".toList "a.s".toList = [
          "; ERROR: Unexpected ')' in a.s(1,1)".toList,
          "; ERROR: Unterminated string literal in a.s(1,5)".toList,
          "; WARNING: Unknown escape sequence '\\q' in a.s(1,6)".toList,
          "; ERROR: ')' expected in a.s(1,2)".toList] ∧
        Text.pieces output =
          "(f \"\\q\")".toList :: (comments ")(f \"\\q".toList "a.s".toList ++ [[]]) ∧
        (parse output []).program = [.list [.atom "f".toList, .string "\\q".toList]] := by
  have hdiscover : discover fourFaults (.ofText "t".toList) "s".toList = .ok [caseOf "a"] :=
    discover_eq_ok_iff.mpr ⟨_, walk_holdingAs _ _, by decide +kernel⟩
  have hsource : fourFaults.fileText (caseOf "a").source = .ok ")(f \"\\q".toList :=
    FileSystem.fileText_of_content (by cbv)
  have hname : '\n' ∉ (caseOf "a").fileName := by decide
  have hnormal : Text.normalize ")(f \"\\q".toList = ")(f \"\\q".toList := by decide
  have hprogram : program ")(f \"\\q".toList = [.list [.atom "f".toList, .string "\\q".toList]] :=
    program_eq_of_mend (by cbv)
  have hcomments : comments ")(f \"\\q".toList "a.s".toList = [
      "; ERROR: Unexpected ')' in a.s(1,1)".toList,
      "; ERROR: Unterminated string literal in a.s(1,5)".toList,
      "; WARNING: Unknown escape sequence '\\q' in a.s(1,6)".toList,
      "; ERROR: ')' expected in a.s(1,2)".toList] := by
    rw [comments_eq_map_complaints]
    decide +kernel
  have hprinted : Text.pieces (printProgram Text.displayWidth 80 (program ")(f \"\\q".toList)) =
      ["(f \"\\q\")".toList, []] := by
    rw [hprogram]
    decide +kernel
  obtain ⟨houtput, -, -, -, hread⟩ := comments_of_discovered 80 hdiscover List.mem_cons_self hsource
  obtain ⟨hpieces, hparse⟩ := hread hname
  refine ⟨hdiscover, hsource, hname, _, houtput, hcomments, ?_, ?_⟩
  · refine hpieces.trans ?_
    rw [hnormal]
    exact congrArg (·.dropLast ++ _) hprinted
  · exact (hparse []).trans hprogram

/-- The second line of a comment about a file whose name breaks is read back as forms. -/
theorem not_forall_comment_unbroken :
    ¬ (∀ (fs : FileSystem) (root : Path) (extension : Text) (cases : List TestCase)
        (case : TestCase) (source : Text), discover fs root extension = .ok cases → case ∈ cases →
        fs.fileText case.source = .ok source →
          ∀ comment ∈ comments (Text.normalize source) case.fileName, Unbroken comment) ∧
    ¬ (∀ (fs : FileSystem) (root : Path) (extension : Text) (cases : List TestCase)
        (case : TestCase) (source output : Text) (limit : Nat),
        discover fs root extension = .ok cases → case ∈ cases →
        fs.fileText case.source = .ok source →
        caseOutput (pipeline limit) fs () case = .ok (output, ()) →
          (parse output case.fileName).program =
            (parse (Text.normalize source) case.fileName).program) := by
  have hdiscover : discover (holdingAs brokenName ")".toList) (.ofText "t".toList) "s".toList =
      .ok [caseOf "a\nb"] :=
    discover_eq_ok_iff.mpr ⟨_, walk_holdingAs _ _, by decide +kernel⟩
  have hsource :
      (holdingAs brokenName ")".toList).fileText (caseOf "a\nb").source = .ok ")".toList :=
    FileSystem.fileText_of_content (by cbv)
  have hcomments : comments ")".toList "a\nb.s".toList =
      ["; ERROR: Unexpected ')' in a\nb.s(1,1)".toList] := by
    rw [comments_eq_map_complaints]
    decide +kernel
  have hprogram : program ")".toList = [] :=
    program_eq_of_mend (by cbv)
  have hround : round 80 "a\nb.s".toList ")".toList =
      "; ERROR: Unexpected ')' in a\nb.s(1,1)\n".toList := by
    rw [round_eq_comments, hprogram, hcomments]
    rfl
  have hread : program "; ERROR: Unexpected ')' in a\nb.s(1,1)\n".toList =
      [.atom "b.s".toList, .list [.atom "1,1".toList]] :=
    program_eq_of_mend (by cbv)
  refine ⟨fun h => ?_, fun h => ?_⟩
  · have hunbroken := h _ _ _ _ _ _ hdiscover List.mem_cons_self hsource _
      (hcomments.symm ▸ List.mem_cons_self)
    exact absurd hunbroken (by decide)
  · have houtput : caseOutput (pipeline 80) (holdingAs brokenName ")".toList) () (caseOf "a\nb") =
        .ok (round 80 "a\nb.s".toList ")".toList, ()) :=
      caseOutput_of_fileText (p := pipeline 80) () hsource
    have hsame := h _ _ _ _ _ _ _ _ hdiscover List.mem_cons_self hsource houtput
    rw [hround] at hsame
    exact absurd (hread.symm.trans (hsame.trans hprogram)) (List.cons_ne_nil _ _)

end GoldenFiles.Sexp
