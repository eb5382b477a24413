import GoldenFiles.Proofs.Sexp.Printable

/-!
# Reading what has been printed

A printed program reads as the program it was printed from, however wide its lines may be, and what
the reader has to say about it is one warning for every escape that means nothing.

## Main definitions

* `Breaks` — a text at whose beginning an atom ends
* `Spells` — a text that reads as certain tokens, whatever follows
* `strangeEscapes`, `strangeEscapesOf` — the escapes of a body, and of a program, that mean nothing
* `kinds` — the problems of a source without their places

## Main results

* `Form.spells_flat`, `Form.spells_layout`, `lex_printProgram` — printed forms spell their tokens
* `mend_tokensOf`, `kinds_tokensOf` — tokens whose parentheses balance need no mending
* `parse_printProgram` — reading undoes printing
-/

namespace GoldenFiles.Sexp

/-! ### Lexemes of a text, from its first character -/

section Lex

variable {c : Char} {text rest body : Text}

/-- An atom that ends where this text begins is not continued by it. -/
def Breaks (rest : Text) : Prop := ∀ c ∈ rest.head?, isDelimiter c = true

theorem breaks_nil : Breaks [] := by simp [Breaks]

theorem breaks_cons (h : isDelimiter c = true) : Breaks (c :: rest) := by simpa [Breaks] using h

@[simp] theorem lex_nil : lex [] = [] := by simp [lex, lexemes]

theorem lex_blank (h : isBlank c = true) : lex (c :: rest) = lex rest := by
  rw [lex, lexemes, lexemesFrom_blank h, values_lexemesFrom]

theorem lex_opening : lex ('(' :: rest) = .token .opening :: lex rest := by
  rw [lex, lexemes, lexemesFrom_opening, values_cons, values_lexemesFrom]

theorem lex_closing : lex (')' :: rest) = .token .closing :: lex rest := by
  rw [lex, lexemes, lexemesFrom_closing, values_cons, values_lexemesFrom]

theorem readBody_append (h : validBody body = true) :
    readBody (body ++ '"' :: rest) = (body, some rest) := by
  fun_induction validBody body with
  | case1 => rfl
  | case2 => cases h
  | case3 => cases h
  | case4 c tail ih =>
    simp only [List.cons_append, readBody, ih h]
  | case5 c tail hquote hlast hpair ih =>
    have hbackslash : c ≠ '\\' := ne_backslash hlast hpair
    rw [List.cons_append, readBody_cons_of_ne hquote hbackslash, ih h]

theorem lex_string (h : validBody body = true) :
    lex ('"' :: (body ++ '"' :: rest)) = .token (.string body) :: lex rest := by
  rw [lex, lexemes, lexemesFrom_string (readBody_append h), values_cons, values_lexemesFrom]

theorem atomHead_append (h : ∀ c ∈ text, isDelimiter c = false) (hrest : Breaks rest) :
    atomHead (text ++ rest) = text := by
  have hstop : rest.takeWhile (!isDelimiter ·) = [] := by
    cases rest with
    | nil => rfl
    | cons c rest => simp [hrest c rfl]
  rw [atomHead_eq, List.takeWhile_append_of_pos (by simpa using h), hstop, List.append_nil]

theorem atomTail_append (h : ∀ c ∈ text, isDelimiter c = false) (hrest : Breaks rest) :
    atomTail (text ++ rest) = rest := by
  have hstop : rest.dropWhile (!isDelimiter ·) = rest := by
    cases rest with
    | nil => rfl
    | cons c rest => simp [hrest c rfl]
  rw [atomTail_eq, List.dropWhile_append_of_pos (by simpa using h), hstop]

theorem lex_atom (h : ValidAtom text) (hrest : Breaks rest) :
    lex (text ++ rest) = .token (.atom text) :: lex rest := by
  obtain ⟨hne, hall⟩ := validAtom_iff.mp h
  cases text with
  | nil => exact absurd rfl hne
  | cons c tail =>
    have hc := hall c List.mem_cons_self
    have htail : ∀ d ∈ tail, isDelimiter d = false := fun d hd => hall d (List.mem_cons_of_mem _ hd)
    rw [List.cons_append, lex, lexemes, lexemesFrom_atom hc, values_cons, values_lexemesFrom,
      atomHead_append htail hrest, atomTail_append htail hrest]

end Lex

/-! ### Texts that spell tokens -/

/-- The text reads as the given tokens, whatever follows that does not continue an atom. -/
def Spells (text : Text) (tokens : List Token) : Prop :=
  ∀ rest, Breaks rest → lex (text ++ rest) = tokens.map .token ++ lex rest

namespace Spells

variable {text text' : Text} {tokens tokens' : List Token} {c : Char}

theorem nil : Spells [] [] := fun _ _ => rfl

theorem append (h : Spells text tokens) (h' : Spells text' tokens')
    (hbreaks : ∀ rest, Breaks rest → Breaks (text' ++ rest)) :
    Spells (text ++ text') (tokens ++ tokens') := by
  intro rest hrest
  -- What follows the first text begins with the second one, which must not continue its last atom.
  rw [List.append_assoc, h _ (hbreaks rest hrest), h' rest hrest, List.map_append,
    List.append_assoc]

theorem blank (hc : isBlank c = true) (h : Spells text tokens) : Spells (c :: text) tokens := by
  intro rest hrest
  rw [List.cons_append, lex_blank hc, h rest hrest]

theorem blanks (n : Nat) (h : Spells text tokens) :
    Spells (List.replicate n ' ' ++ text) tokens := by
  induction n with
  | zero => exact h
  | succ n ih => exact ih.blank rfl

theorem list (h : Spells text tokens) :
    Spells ('(' :: (text ++ [')'])) (.opening :: (tokens ++ [.closing])) := by
  intro rest hrest
  rw [List.cons_append, lex_opening, List.append_assoc, List.singleton_append,
    h _ (breaks_cons rfl), lex_closing]
  simp

end Spells

/-! ### Printed forms -/

theorem breaks_flatBehind (forms : List Form) {rest : Text} (h : Breaks rest) :
    Breaks (flatBehind forms ++ rest) := by
  cases forms with
  | nil => exact h
  | cons form others => exact breaks_cons rfl

theorem breaks_layoutBelow (width : Text → Nat) (limit column : Nat) (forms : List Form)
    {rest : Text} (h : Breaks rest) : Breaks (layoutBelow width limit column forms ++ rest) := by
  cases forms with
  | nil => exact h
  | cons form others => exact breaks_cons rfl

mutual

/-- A form on one line spells its tokens. -/
theorem Form.spells_flat : (form : Form) → form.WellFormed → Spells form.flat form.tokens
  | .atom _, h => fun _ hrest => lex_atom h hrest
  | .string body, h => fun rest _ => by
    have hlex : lex ('"' :: (body ++ '"' :: rest)) = _ := lex_string h
    simpa [Form.flat, Form.tokens] using hlex
  | .list items, h => (spells_flatItems items h).list

theorem spells_flatItems :
    (forms : List Form) → AllWellFormed forms → Spells (flatItems forms) (tokensOf forms)
  | [], _ => .nil
  | form :: rest, h =>
    (form.spells_flat h.1).append (spells_flatBehind rest h.2) fun _ => breaks_flatBehind rest

theorem spells_flatBehind :
    (forms : List Form) → AllWellFormed forms → Spells (flatBehind forms) (tokensOf forms)
  | [], _ => .nil
  | form :: rest, h =>
    ((form.spells_flat h.1).append (spells_flatBehind rest h.2) fun _ =>
      breaks_flatBehind rest).blank rfl

end

section Layout

variable (width : Text → Nat) (limit : Nat)

mutual

/-- A form spells its tokens wherever it begins, broken over lines or not. -/
theorem Form.spells_layout (column : Nat) :
    (form : Form) → form.WellFormed → Spells (form.layout width limit column) form.tokens
  | .atom text, h => Form.spells_flat (.atom text) h
  | .string body, h => Form.spells_flat (.string body) h
  | .list [], h => Form.spells_flat (.list []) h
  | .list (head :: rest), h => by
    rw [Form.layout]
    split
    · exact Form.spells_flat (.list (head :: rest)) h
    · have hinner := (head.spells_layout (column + 1) h.1).append
        (spells_layoutBelow (column + 2) rest h.2) fun _ => breaks_layoutBelow width limit _ rest
      simpa [Form.tokens, tokensOf] using hinner.list

theorem spells_layoutBelow (column : Nat) :
    (forms : List Form) → AllWellFormed forms →
      Spells (layoutBelow width limit column forms) (tokensOf forms)
  | [], _ => .nil
  | form :: rest, h =>
    (((form.spells_layout column h.1).append (spells_layoutBelow column rest h.2) fun _ =>
      breaks_layoutBelow width limit column rest).blanks column).blank rfl

end

theorem spells_printProgram :
    (forms : List Form) → AllWellFormed forms →
      Spells (printProgram width limit forms) (tokensOf forms)
  | [], _ => .nil
  | form :: rest, h => by
    have hrest : Spells ('\n' :: printProgram width limit rest) (tokensOf rest) :=
      (spells_printProgram rest h.2).blank rfl
    have hall := (form.spells_layout width limit 0 h.1).append hrest fun _ _ => breaks_cons rfl
    simpa [printProgram, tokensOf] using hall

/-- A printed program has the tokens of the program as its lexemes. -/
theorem lex_printProgram {forms : List Form} (h : AllWellFormed forms) :
    lex (printProgram width limit forms) = (tokensOf forms).map .token := by
  simpa using spells_printProgram width limit forms h [] breaks_nil

end Layout

/-! ### Escapes that mean nothing -/

/-- The characters behind the backslashes of a body that mean nothing. -/
def strangeEscapes : Text → List Char
  | [] => []
  | '\\' :: c :: rest =>
    if c ∈ ['"', '\\', 'n', 't', 'r'] then strangeEscapes rest else c :: strangeEscapes rest
  | _ :: rest => strangeEscapes rest

mutual

/-- The escapes of a form that mean nothing, in their order. -/
def Form.strangeEscapes : Form → List Char
  | .atom _ => []
  | .string body => Sexp.strangeEscapes body
  | .list items => strangeEscapesOf items

/-- The escapes of forms that mean nothing, in their order. -/
def strangeEscapesOf : List Form → List Char
  | [] => []
  | form :: rest => form.strangeEscapes ++ strangeEscapesOf rest

end

theorem map_value_unknownEscapes (p : Position) (body : Text) :
    (unknownEscapes p body).map (·.value) = (strangeEscapes body).map .unknownEscape := by
  fun_induction unknownEscapes p body with
  | case1 => rfl
  | case2 p c rest behind hknown ih =>
    rwa [strangeEscapes, if_pos (isKnownEscape_iff.mp hknown)]
  | case3 p c rest behind hunknown ih =>
    rw [strangeEscapes, if_neg (mt isKnownEscape_iff.mpr hunknown)]
    simpa using ih
  | case4 p c rest hpair ih =>
    rw [ih, strangeEscapes]
    exact hpair

/-! ### Problems without their places -/

/-- The problems of a source from its lexemes without their places, when so many lists are open. -/
def kinds : Nat → List Lexeme → List Problem
  | depth, [] => List.replicate depth .unclosedList
  | depth, .token .opening :: rest => kinds (depth + 1) rest
  | 0, .token .closing :: rest => .strayClosing :: kinds 0 rest
  | depth + 1, .token .closing :: rest => kinds depth rest
  | depth, .token (.atom _) :: rest => kinds depth rest
  | depth, .token (.string body) :: rest =>
    (strangeEscapes body).map .unknownEscape ++ kinds depth rest
  | depth, .unterminated body :: rest =>
    .unterminatedString :: (strangeEscapes body).map .unknownEscape ++ kinds depth rest

theorem map_value_complaints (opened : List Position) (lexemes : List (Located Lexeme)) :
    (complaints opened lexemes).map (·.value) = kinds opened.length (values lexemes) := by
  fun_induction complaints opened lexemes with
  | case1 opened => simp [kinds, Function.comp_def, List.map_const']
  | case2 opened start rest ih => simpa [kinds] using ih
  | case3 start rest ih => simpa [kinds] using ih
  | case4 _ opened _ rest ih => simpa [kinds] using ih
  | case5 opened start text rest ih => simpa [kinds] using ih
  | case6 opened start body rest ih => simpa [kinds, map_value_unknownEscapes] using ih
  | case7 opened start body rest ih => simpa [kinds, map_value_unknownEscapes] using ih

/-! ### Tokens whose parentheses balance -/

mutual

theorem Form.mend_tokens (rest : List Lexeme) :
    (form : Form) → ∀ depth,
      mend depth (form.tokens.map .token ++ rest) = form.tokens ++ mend depth rest
  | .atom _, _ => by simp [Form.tokens, mend]
  | .string _, _ => by simp [Form.tokens, mend]
  -- The closing parenthesis of the list finds the list open, whatever is open around it.
  | .list items, depth => by
    have hitems := mend_tokensOf (.token .closing :: rest) items (depth + 1)
    simpa [Form.tokens, mend] using hitems

/-- The tokens of forms need no mending. -/
theorem mend_tokensOf (rest : List Lexeme) :
    (forms : List Form) → ∀ depth,
      mend depth ((tokensOf forms).map .token ++ rest) = tokensOf forms ++ mend depth rest
  | [], _ => rfl
  | form :: others, depth => by
    rw [tokensOf, List.map_append, List.append_assoc, form.mend_tokens, mend_tokensOf rest others,
      List.append_assoc]

end

mutual

theorem Form.kinds_tokens (rest : List Lexeme) :
    (form : Form) → ∀ depth,
      kinds depth (form.tokens.map .token ++ rest) =
        form.strangeEscapes.map .unknownEscape ++ kinds depth rest
  | .atom _, _ => by simp [Form.tokens, kinds, Form.strangeEscapes]
  | .string _, _ => by simp [Form.tokens, kinds, Form.strangeEscapes]
  | .list items, depth => by
    have hitems := kinds_tokensOf (.token .closing :: rest) items (depth + 1)
    simpa [Form.tokens, kinds, Form.strangeEscapes] using hitems

/-- The problems of the tokens of forms are their escapes that mean nothing. -/
theorem kinds_tokensOf (rest : List Lexeme) :
    (forms : List Form) → ∀ depth,
      kinds depth ((tokensOf forms).map .token ++ rest) =
        (strangeEscapesOf forms).map .unknownEscape ++ kinds depth rest
  | [], _ => rfl
  | form :: others, depth => by
    rw [tokensOf, List.map_append, List.append_assoc, form.kinds_tokens, kinds_tokensOf rest others,
      strangeEscapesOf, List.map_append, List.append_assoc]

end

/-! ### The round trip -/

section Printed

variable (width : Text → Nat) (limit : Nat) {forms : List Form}

theorem program_printProgram (h : AllWellFormed forms) :
    program (printProgram width limit forms) = forms := by
  -- Programs with the same tokens are the same, so the lexemes of the text decide.
  apply program_eq_of_mend
  rw [lex_printProgram width limit h]
  simpa [mend] using mend_tokensOf [] forms 0

theorem problems_printProgram (h : AllWellFormed forms) :
    (complaints [] (lexemes (printProgram width limit forms))).map (·.value) =
      (strangeEscapesOf forms).map .unknownEscape := by
  rw [map_value_complaints]
  change kinds 0 (lex (printProgram width limit forms)) = _
  rw [lex_printProgram width limit h]
  simpa [kinds] using kinds_tokensOf [] forms 0

theorem diagnostics_printProgram (filename : Text) (h : AllWellFormed forms) :
    (diagnostics (printProgram width limit forms) filename).map
        (fun d => (d.severity, d.message, d.filename)) =
      (strangeEscapesOf forms).map fun c =>
        (.warning, "Unknown escape sequence '\\".toList ++ [c] ++ "'".toList, filename) := by
  have hproblems := congrArg
    (List.map fun problem : Problem => (problem.severity, problem.message, filename))
    (problems_printProgram width limit h)
  rw [List.map_map, List.map_map] at hproblems
  rw [diagnostics_eq, List.map_map]
  exact hproblems

end Printed

/-- Reading undoes printing, within any number of columns: the program comes back, and the reader
has nothing to say about it but one warning for every escape that means nothing, in their order. So
what has been read and printed stays as it is when it is read and printed again, and printing within
another number of columns gives a text that reads alike. -/
theorem parse_printProgram (width : Text → Nat) (filename : Text) :
    (∀ forms, AllWellFormed forms → ∀ limit,
      let parsed := parse (printProgram width limit forms) filename
      parsed.program = forms ∧
        (∀ d ∈ parsed.diagnostics, d.severity ≠ .error) ∧
        parsed.diagnostics.map (fun d => (d.severity, d.message, d.filename)) =
          (strangeEscapesOf forms).map fun c =>
            (.warning, "Unknown escape sequence '\\".toList ++ [c] ++ "'".toList, filename)) ∧
    (∀ source limit,
      let printed := printProgram width limit (parse source filename).program
      printProgram width limit (parse printed filename).program = printed) ∧
    ∀ forms, AllWellFormed forms → ∀ limit limit',
      (parse (printProgram width limit forms) filename).program =
        (parse (printProgram width limit' forms) filename).program := by
  refine ⟨?_, ?_, ?_⟩
  · intro forms h limit
    refine ⟨program_printProgram width limit h, ?_, diagnostics_printProgram width limit filename h⟩
    intro d hd
    have hmem : (d.severity, d.message, d.filename) ∈
        (diagnostics (printProgram width limit forms) filename).map
          fun d => (d.severity, d.message, d.filename) :=
      List.mem_map_of_mem hd
    rw [diagnostics_printProgram width limit filename h] at hmem
    obtain ⟨c, -, heq⟩ := List.mem_map.mp hmem
    have hseverity : Severity.warning = d.severity := congrArg Prod.fst heq
    rw [← hseverity]
    decide
  · intro source limit
    exact congrArg _ (program_printProgram width limit (allWellFormed_program source))
  · intro forms h limit limit'
    exact (program_printProgram width limit h).trans (program_printProgram width limit' h).symm

/-- A program with lists in lists and a literal that goes over two lines. -/
def nestedForms : List Form :=
  [.list [.atom "f".toList, .list [.string "a\\qb\nc".toList, .list []], .atom "x".toList]]

theorem parse_printProgram_nestedForms :
    AllWellFormed nestedForms ∧
      (parse (printProgram List.length 3 nestedForms) []).program = nestedForms ∧
      (parse (printProgram List.length 3 nestedForms) []).diagnostics.map (·.message) =
        ["Unknown escape sequence '\\q'".toList] := by
  have h : AllWellFormed nestedForms := by
    simp [nestedForms, AllWellFormed, Form.WellFormed, ValidAtom, validBody]
  have hprinted := (parse_printProgram List.length []).1 nestedForms h 3
  refine ⟨h, hprinted.1, ?_⟩
  have hmessages := congrArg (List.map fun d => d.2.1) hprinted.2.2
  rw [List.map_map] at hmessages
  exact hmessages.trans (by decide)

end GoldenFiles.Sexp
