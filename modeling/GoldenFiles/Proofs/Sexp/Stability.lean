import GoldenFiles.Proofs.Diagnostic
import GoldenFiles.Proofs.Sexp.Diagnosis
import Mathlib.Logic.Function.Iterate

/-!
# Outputs as sources

The output for a source is a printed program with comments behind it, and it is a source again. The
comments add no lexeme and move none, so what is said about the output is what is said about the
printed program alone: its program is the one that was printed, and what was mended before is mended
now. The comments of the second output are therefore those of every later one. An output also tells
what was found in its source, since the comments are the lines behind the printed program.

## Main definitions

* `WholeLines` — a text that is not in the middle of a line where it ends
* `round` — the output for a source

## Main results

* `lexemesFrom_append` — what follows whole lines of closed literals does not change their lexemes
* `lexemes_renderOutput` — comments behind a printed program change nothing
* `rounds_stable` — the program never changes, and the text does not from the second round on
* `output_determines_parse` — an output tells the program and the displayed diagnostics
-/

namespace GoldenFiles.Sexp

variable {p : Position} {text more rest body : Text}

/-! ### Whole lines -/

/-- A scan that stops inside a text does not see what follows the text. -/
theorem takeWhile_append_of_mem {q : Char → Bool} {c : Char} (h : c ∈ text) (hc : q c = false)
    (more : Text) :
    (text ++ more).takeWhile q = text.takeWhile q ∧
      (text ++ more).dropWhile q = text.dropWhile q ++ more := by
  induction text with
  | nil => cases h
  | cons d tail ih =>
    by_cases hd : q d = true
    · have htail : c ∈ tail := by
        refine (List.mem_cons.mp h).resolve_left ?_
        rintro rfl
        rw [hd] at hc
        cases hc
      simp [hd, ih htail]
    · simp [hd]

/-- A text that is empty or ends a line. -/
def WholeLines (text : Text) : Prop := text = [] ∨ text.getLast? = some '\n'

namespace WholeLines

theorem of_append (text : Text) (h : WholeLines (text ++ more)) : WholeLines more := by
  by_cases hmore : more = []
  · exact .inl hmore
  · refine .inr ?_
    rcases h with h | h
    · exact absurd (List.append_eq_nil_iff.mp h).2 hmore
    · rw [List.getLast?_append, List.getLast?_eq_some_getLast hmore, Option.some_or] at h
      rw [List.getLast?_eq_some_getLast hmore, h]

theorem tail {c : Char} (h : WholeLines (c :: rest)) : WholeLines rest :=
  of_append [c] h

theorem append (h : WholeLines text) (h' : WholeLines more) : WholeLines (text ++ more) := by
  rcases h' with rfl | h'
  · rwa [List.append_nil]
  · refine .inr ?_
    rw [List.getLast?_append, h', Option.some_or]

/-- A scan that stops at line feeds stops inside whole lines: it does not see what follows them, and
leaves whole lines over. -/
theorem scan {c : Char} {q : Char → Bool} (h : WholeLines (c :: rest)) (hc : c ≠ '\n')
    (hq : q '\n' = false) (more : Text) :
    (rest ++ more).takeWhile q = rest.takeWhile q ∧
      (rest ++ more).dropWhile q = rest.dropWhile q ++ more ∧ WholeLines (rest.dropWhile q) := by
  have hend : '\n' ∈ rest := by
    have hlast := h.resolve_left (List.cons_ne_nil c rest)
    exact (List.mem_cons.mp (List.mem_of_getLast? hlast)).resolve_left (Ne.symm hc)
  have hrest : WholeLines (rest.takeWhile q ++ rest.dropWhile q) := by
    rw [List.takeWhile_append_dropWhile]
    exact h.tail
  obtain ⟨htake, hdrop⟩ := takeWhile_append_of_mem hend hq more
  exact ⟨htake, hdrop, hrest.of_append _⟩

end WholeLines

theorem AllClosed.tail {lexeme : Lexeme} {others : List Lexeme} (h : AllClosed (lexeme :: others)) :
    AllClosed others := fun body hmem => h body (List.mem_cons_of_mem _ hmem)

theorem wholeLines_printProgram (width : Text → Nat) (limit : Nat) (forms : List Form) :
    WholeLines (printProgram width limit forms) := by
  induction forms with
  | nil => exact .inl rfl
  | cons form others ih =>
    refine WholeLines.append (.inr ?_) ih
    exact List.getLast?_concat

/-! ### Lexemes of whole lines -/

theorem readBody_append_of_some {behind : Text} (h : readBody text = (body, some behind))
    (more : Text) : readBody (text ++ more) = (body, some (behind ++ more)) := by
  have hvalid : validBody (readBody text).1 = true := validBody_readBody (by simp [h])
  rw [h] at hvalid
  rw [eq_of_readBody_some h, List.append_assoc, List.cons_append]
  exact readBody_append hvalid

/-- What follows whole lines in which every literal is closed does not change their lexemes, and
they do not change those of what follows. -/
theorem lexemesFrom_append (hlines : WholeLines text)
    (hclosed : AllClosed (values (lexemesFrom p text)))
    (more : Text) :
    lexemesFrom p (text ++ more) = lexemesFrom p text ++ lexemesFrom (p.after text) more := by
  fun_induction lexemesFrom p text with
  | case1 => rfl
  | case2 p c rest hblank ih =>
    rw [List.cons_append, lexemesFrom_blank (isBlank_iff.mpr hblank), ih hlines.tail hclosed,
      Position.after_cons]
  | case3 p rest _ ih =>
    obtain ⟨hhead, htail, hrest⟩ := hlines.scan (q := (· ≠ '\n')) (by decide) (by decide) more
    rw [List.cons_append, lexemesFrom_comment, commentHead, commentTail, hhead, htail]
    refine (ih hrest hclosed).trans ?_
    rw [← Position.after_append, commentHead, commentTail, List.takeWhile_append_dropWhile]
    rfl
  | case4 p rest _ _ ih =>
    rw [List.cons_append, lexemesFrom_opening, ih hlines.tail hclosed.tail]
    rfl
  | case5 p rest _ _ _ ih =>
    rw [List.cons_append, lexemesFrom_closing, ih hlines.tail hclosed.tail]
    rfl
  | case6 p rest body behind hbody _ _ _ _ ih =>
    have hrest : WholeLines (body ++ '"' :: behind) := eq_of_readBody_some hbody ▸ hlines.tail
    have hbehind : WholeLines behind := (hrest.of_append body).tail
    rw [List.cons_append, lexemesFrom_string (readBody_append_of_some hbody more),
      ih hbehind hclosed.tail, eq_of_readBody_some hbody]
    simp
  | case7 p rest body hbody =>
    exact absurd List.mem_cons_self (hclosed body)
  | case8 p c rest _ _ _ _ _ ih =>
    have hc : isDelimiter c = false := by simp_all [isDelimiter, isBlank]
    have hne : c ≠ '\n' := by
      rintro rfl
      simp [isDelimiter, isBlank] at hc
    obtain ⟨hhead, htail, hrest⟩ := hlines.scan (q := (!isDelimiter ·)) hne (by decide) more
    rw [List.cons_append, lexemesFrom_atom hc, atomHead_eq, atomTail_eq, hhead, htail]
    rw [← atomTail_eq] at hrest
    rw [← atomHead_eq, ← atomTail_eq]
    refine (congrArg _ (ih hrest hclosed.tail)).trans ?_
    rw [← Position.after_append, atomHead_eq, atomTail_eq, List.takeWhile_append_dropWhile]
    rfl

/-! ### Outputs -/

/-- Comment lines hold no lexemes. -/
theorem lexemesFrom_comments {found : List Diagnostic} (h : ∀ d ∈ found, '\n' ∉ d.filename) :
    lexemesFrom p (found.flatMap (commentLine lineComment)) = [] := by
  induction found generalizing p with
  | nil => exact lexemesFrom_nil
  | cons d others ih =>
    obtain ⟨hd, hothers⟩ := List.forall_mem_cons.mp h
    have hline : ∀ c ∈ ' ' :: d.text, (decide (c ≠ '\n')) = true := by
      intro c hc
      have hne : c ≠ '\n' := by
        rintro rfl
        exact Diagnostic.lineFeed_notMem_text hd ((List.mem_cons.mp hc).resolve_left (by decide))
      exact decide_eq_true hne
    have htext : (d :: others).flatMap (commentLine lineComment) =
        ';' :: ((' ' :: d.text) ++ '\n' :: others.flatMap (commentLine lineComment)) := by
      simp [commentLine, lineComment]
    have htail : commentTail ((' ' :: d.text) ++
        '\n' :: others.flatMap (commentLine lineComment)) =
          '\n' :: others.flatMap (commentLine lineComment) := by
      rw [commentTail, List.dropWhile_append_of_pos hline]
      rfl
    rw [htext, lexemesFrom_comment, htail, lexemesFrom_blank rfl]
    exact ih hothers

theorem allClosed_lex_printProgram (width : Text → Nat) (limit : Nat) {forms : List Form}
    (h : AllWellFormed forms) : AllClosed (lex (printProgram width limit forms)) := by
  intro body hmem
  rw [lex_printProgram width limit h] at hmem
  obtain ⟨token, -, htoken⟩ := List.mem_map.mp hmem
  cases htoken

/-- Comments behind a printed program add no lexeme to it, and move none. -/
theorem lexemes_renderOutput (width : Text → Nat) (limit : Nat) {forms : List Form}
    {found : List Diagnostic} (hforms : AllWellFormed forms)
    (hfound : ∀ d ∈ found, '\n' ∉ d.filename) :
    lexemes (renderOutput (printProgram width limit forms) found lineComment) =
      lexemes (printProgram width limit forms) := by
  rw [renderOutput, lexemes, lexemesFrom_append (wholeLines_printProgram width limit forms)
    (allClosed_lex_printProgram width limit hforms), lexemesFrom_comments hfound, List.append_nil]
  rfl

theorem program_congr {source other : Text} (h : lexemes source = lexemes other) :
    program source = program other := by
  apply program_eq_of_mend
  rw [tokensOf_program, lex, lex, h]

theorem diagnostics_congr {source other : Text} (h : lexemes source = lexemes other)
    (filename : Text) : diagnostics source filename = diagnostics other filename := by
  rw [diagnostics_eq, diagnostics_eq, h]

theorem filename_of_mem_diagnostics {source filename : Text} {d : Diagnostic}
    (h : d ∈ diagnostics source filename) : d.filename = filename := by
  rw [diagnostics_eq] at h
  obtain ⟨problem, -, rfl⟩ := List.mem_map.mp h
  rfl

theorem severity_of_mem_diagnostics_printProgram (width : Text → Nat) (limit : Nat)
    {forms : List Form} {filename : Text} {d : Diagnostic} (h : AllWellFormed forms)
    (hd : d ∈ diagnostics (printProgram width limit forms) filename) : d.severity = .warning := by
  have hmem := List.mem_map_of_mem (f := fun d => (d.severity, d.message, d.filename)) hd
  rw [diagnostics_printProgram width limit filename h] at hmem
  obtain ⟨c, -, heq⟩ := List.mem_map.mp hmem
  exact (congrArg Prod.fst heq).symm

/-! ### Sources that need no mending -/

/-- Lexemes about which there is nothing to say stay as they are. -/
theorem map_mend_of_kinds_eq_nil {depth : Nat} {lexemes : List Lexeme}
    (h : kinds depth lexemes = []) :
    (mend depth lexemes).map .token = lexemes := by
  fun_induction kinds depth lexemes with
  | case1 depth =>
    obtain rfl : depth = 0 := by simpa using h
    rfl
  | case2 depth rest ih => simp [mend, ih h]
  | case3 rest ih => cases h
  | case4 depth rest ih => simp [mend, ih h]
  | case5 depth text rest ih => simp [mend, ih h]
  | case6 depth body rest ih => simp [mend, ih (List.append_eq_nil_iff.mp h).2]
  | case7 => cases h

theorem diagnostics_eq_nil_iff {source filename : Text} :
    diagnostics source filename = [] ↔ kinds 0 (lex source) = [] := by
  have hkinds : (complaints [] (lexemes source)).map (·.value) = kinds 0 (lex source) :=
    map_value_complaints [] (lexemes source)
  rw [diagnostics_eq, ← hkinds, List.map_eq_nil_iff, List.map_eq_nil_iff]

/-- Where there is nothing to say about a source, there is nothing to say about its program printed.
-/
theorem diagnostics_printProgram_eq_nil (width : Text → Nat) (limit : Nat) {source filename : Text}
    (h : diagnostics source filename = []) :
    diagnostics (printProgram width limit (program source)) filename = [] := by
  rw [diagnostics_eq_nil_iff] at h ⊢
  rw [lex_printProgram width limit (allWellFormed_program source), tokensOf_program,
    map_mend_of_kinds_eq_nil h, h]

/-! ### Rounds -/

/-- The output for a source, which is the source of the next round. -/
def round (limit : Nat) (filename source : Text) : Text :=
  ((pipeline limit).output () source filename).1

section Rounds

variable {limit : Nat} {filename source : Text}

theorem round_eq (limit : Nat) (filename source : Text) :
    round limit filename source =
      renderOutput (printProgram Text.displayWidth limit (program source))
        (diagnostics source filename) lineComment := rfl

/-- An output has the lexemes of the program that it prints. -/
theorem lexemes_round (h : '\n' ∉ filename) :
    lexemes (round limit filename source) =
      lexemes (printProgram Text.displayWidth limit (program source)) := by
  rw [round_eq]
  apply lexemes_renderOutput _ _ (allWellFormed_program source)
  intro d hd
  rwa [filename_of_mem_diagnostics hd]

theorem program_round (h : '\n' ∉ filename) :
    program (round limit filename source) = program source :=
  (program_congr (lexemes_round h)).trans
    (program_printProgram _ _ (allWellFormed_program source))

theorem diagnostics_round (h : '\n' ∉ filename) :
    diagnostics (round limit filename source) filename =
      diagnostics (printProgram Text.displayWidth limit (program source)) filename :=
  diagnostics_congr (lexemes_round h) filename

theorem program_iterate_round (h : '\n' ∉ filename) (n : Nat) :
    program ((round limit filename)^[n] source) = program source := by
  induction n with
  | zero => rfl
  | succ n ih => rw [Function.iterate_succ_apply', program_round h, ih]

/-- From the first output on, the diagnostics are those for the printed program. -/
theorem diagnostics_iterate_round (h : '\n' ∉ filename) (n : Nat) :
    diagnostics ((round limit filename)^[n + 1] source) filename =
      diagnostics (printProgram Text.displayWidth limit (program source)) filename := by
  rw [Function.iterate_succ_apply', diagnostics_round h, program_iterate_round h]

/-- The text of a round is the printed program with the comments for the text before it. -/
theorem iterate_round_succ (h : '\n' ∉ filename) (n : Nat) :
    (round limit filename)^[n + 1] source =
      renderOutput (printProgram Text.displayWidth limit (program source))
        (diagnostics ((round limit filename)^[n] source) filename) lineComment := by
  rw [Function.iterate_succ_apply', round_eq, program_iterate_round h]

/-- From the second round on the comments are those for the printed program. -/
theorem iterate_round_add_two (h : '\n' ∉ filename) (n : Nat) :
    (round limit filename)^[n + 2] source =
      renderOutput (printProgram Text.displayWidth limit (program source))
        (diagnostics (printProgram Text.displayWidth limit (program source)) filename)
        lineComment := by
  rw [iterate_round_succ h (n + 1), diagnostics_iterate_round h]

end Rounds

/-- Outputs are stable sources. However often a source is read and printed, with its diagnostics as
comments, the program stays what it was. No output has errors, and from the second one on the text
stays as it is; already the first one stays if there is nothing to say about the source. -/
theorem rounds_stable (limit : Nat) (filename source : Text) (h : '\n' ∉ filename) :
    (∀ n, (parse ((round limit filename)^[n] source) filename).program =
      (parse source filename).program) ∧
    (∀ n, 1 ≤ n → ∀ d ∈ (parse ((round limit filename)^[n] source) filename).diagnostics,
      d.severity ≠ .error) ∧
    (∀ n, 2 ≤ n → (round limit filename)^[n + 1] source = (round limit filename)^[n] source) ∧
    ((parse source filename).diagnostics = [] →
      (round limit filename)^[2] source = (round limit filename)^[1] source) := by
  refine ⟨program_iterate_round h, ?_, ?_, ?_⟩
  · intro n hn d hd
    obtain ⟨n, rfl⟩ := Nat.exists_eq_add_of_le' hn
    change d ∈ diagnostics ((round limit filename)^[n + 1] source) filename at hd
    rw [diagnostics_iterate_round h] at hd
    rw [severity_of_mem_diagnostics_printProgram _ _ (allWellFormed_program source) hd]
    decide
  · intro n hn
    obtain ⟨n, rfl⟩ := Nat.exists_eq_add_of_le' hn
    exact (iterate_round_add_two h (n + 1)).trans (iterate_round_add_two h n).symm
  · intro hnone
    have hprinted : diagnostics (printProgram Text.displayWidth limit (program source)) filename =
        [] := diagnostics_printProgram_eq_nil _ _ hnone
    have hsource : diagnostics source filename = [] := hnone
    rw [iterate_round_add_two h 0, iterate_round_succ h 0, hprinted, Function.iterate_zero_apply,
      hsource]

/-- A list and a literal that are never closed are closed by the first round, and the warning that
stays has moved by the second one. -/
theorem rounds_stable_openLiteral :
    '\n' ∉ "a.s".toList ∧
      (parse ((round 80 "a.s".toList)^[5] "(f\n\"\\q".toList) "a.s".toList).program =
        (parse "(f\n\"\\q".toList "a.s".toList).program ∧
      (round 80 "a.s".toList)^[3] "(f\n\"\\q".toList =
        (round 80 "a.s".toList)^[2] "(f\n\"\\q".toList := by
  have hname : '\n' ∉ "a.s".toList := by decide
  obtain ⟨hprogram, -, htext, -⟩ := rounds_stable 80 "a.s".toList "(f\n\"\\q".toList hname
  exact ⟨hname, hprogram 5, htext 2 (Nat.le_refl 2)⟩

/-! ### What an output tells -/

theorem lineFeed_notMem_text_of_mem_diagnostics {source filename : Text} (hname : '\n' ∉ filename) :
    ∀ d ∈ diagnostics source filename, '\n' ∉ d.text := by
  intro d hd
  apply Diagnostic.lineFeed_notMem_text
  rwa [filename_of_mem_diagnostics hd]

/-- Nothing that the pipeline finds can hide in its output: where two sources have the same output,
they have the same program, and the diagnostics for them are displayed alike, in the same order. -/
theorem output_determines_parse (limit : Nat) (filename source other : Text)
    (hname : '\n' ∉ filename)
    (h : ((pipeline limit).output () source filename).1 =
      ((pipeline limit).output () other filename).1) :
    (parse source filename).program = (parse other filename).program ∧
      (parse source filename).diagnostics.map Diagnostic.text =
        (parse other filename).diagnostics.map Diagnostic.text := by
  change round limit filename source = round limit filename other at h
  -- Read again, an output gives the program that it prints.
  have hsource : program (round limit filename source) = program source := program_round hname
  have hother : program (round limit filename other) = program other := program_round hname
  have hprogram : program source = program other := by rw [← hsource, h, hother]
  refine ⟨hprogram, ?_⟩
  -- So the same text is printed for both, and the comments are what follows it.
  rw [round_eq, round_eq, hprogram] at h
  have hcomments := List.append_cancel_left h
  exact map_text_eq_of_commentLines (by decide) (lineFeed_notMem_text_of_mem_diagnostics hname)
    (lineFeed_notMem_text_of_mem_diagnostics hname) hcomments

/-- A blank or a tab behind a stray parenthesis: the outputs are the same, and so is what they tell.
The literal looks like a comment from its second line on. -/
theorem output_determines_parse_blanks :
    '\n' ∉ "a.s".toList ∧
      ((pipeline 80).output () ") \"\n; \\q\"".toList "a.s".toList).1 =
        ((pipeline 80).output () ")\t\"\n; \\q\"".toList "a.s".toList).1 ∧
      (parse ") \"\n; \\q\"".toList "a.s".toList).program =
        (parse ")\t\"\n; \\q\"".toList "a.s".toList).program := by
  have hname : '\n' ∉ "a.s".toList := by decide
  have hlexemes : lexemes ") \"\n; \\q\"".toList = lexemes ")\t\"\n; \\q\"".toList := by
    decide +kernel
  have houtput : round 80 "a.s".toList ") \"\n; \\q\"".toList =
      round 80 "a.s".toList ")\t\"\n; \\q\"".toList := by
    rw [round_eq, round_eq, program_congr hlexemes, diagnostics_congr hlexemes]
  exact ⟨hname, houtput, (output_determines_parse 80 _ _ _ hname houtput).1⟩

end GoldenFiles.Sexp
