import GoldenFiles.Sexp.Grammar
import GoldenFiles.Sexp.Lexeme

/-!
# Lexemes at a cursor

What the lexemes of a source are, told by the next character, and how the pieces of which the rules
for literals, atoms, blanks and comments consist relate to them.

## Main definitions

* `Cursor.lexemes` — the lexemes from a cursor on
* `values` — lexemes without their places
* `lex` — the lexemes of a text, wherever it stands

## Main results

* `Cursor.lexemes_skip` — blanks and comments are no lexemes
* `readBody_eq_some`, `readBody_eq_none` — a literal of the lexer has the body that the grammar
  reads
* `values_lexemesFrom` — what the lexemes of a text are does not depend on where it stands
-/

namespace GoldenFiles.Sexp

/-! ### Atoms -/

theorem not_isDelimiter (c : Char) :
    (!isDelimiter c) = decide (c ∉ [' ', '\t', '\r', '\n', '(', ')', '"', ';']) := by
  simp only [← isDelimiter_iff, Bool.not_eq_true, Bool.decide_eq_false]

theorem atomHead_eq (text : Text) : atomHead text = text.takeWhile (!isDelimiter ·) := by
  simp only [not_isDelimiter, atomHead]

theorem atomTail_eq (text : Text) : atomTail text = text.dropWhile (!isDelimiter ·) := by
  simp only [not_isDelimiter, atomTail]

/-! ### The next lexeme -/

section Next

variable {p : Position} {c : Char} {text rest body behind : Text}

@[simp] theorem lexemesFrom_nil : lexemesFrom p [] = [] := by
  rw [lexemesFrom]

/-- The next character decides what the next lexeme is. -/
theorem lexemesFrom_cons :
    lexemesFrom p (c :: rest) =
      if c ∈ [' ', '\t', '\r', '\n'] then
        lexemesFrom (p.advance c) rest
      else if c = ';' then
        lexemesFrom ((p.advance c).after (commentHead rest)) (commentTail rest)
      else if c = '(' then
        ⟨p, .token .opening⟩ :: lexemesFrom (p.advance c) rest
      else if c = ')' then
        ⟨p, .token .closing⟩ :: lexemesFrom (p.advance c) rest
      else if c = '"' then
        match readBody rest with
        | (body, some behind) =>
          ⟨p, .token (.string body)⟩ ::
            lexemesFrom (((p.advance c).after body).advance '"') behind
        | (body, none) => [⟨p, .unterminated body⟩]
      else
        ⟨p, .token (.atom (c :: atomHead rest))⟩ ::
          lexemesFrom ((p.advance c).after (atomHead rest)) (atomTail rest) := by
  rw [lexemesFrom]
  congr 5
  -- The definition keeps the equation of its match, which its termination needs.
  split <;> simp_all

theorem lexemesFrom_blank (h : isBlank c = true) :
    lexemesFrom p (c :: rest) = lexemesFrom (p.advance c) rest := by
  rw [lexemesFrom_cons, if_pos (isBlank_iff.mp h)]

theorem lexemesFrom_comment :
    lexemesFrom p (';' :: rest) =
      lexemesFrom ((p.advance ';').after (commentHead rest)) (commentTail rest) := by
  simp [lexemesFrom_cons]

theorem lexemesFrom_opening :
    lexemesFrom p ('(' :: rest) = ⟨p, .token .opening⟩ :: lexemesFrom (p.advance '(') rest := by
  simp [lexemesFrom_cons]

theorem lexemesFrom_closing :
    lexemesFrom p (')' :: rest) = ⟨p, .token .closing⟩ :: lexemesFrom (p.advance ')') rest := by
  simp [lexemesFrom_cons]

theorem lexemesFrom_string (h : readBody rest = (body, some behind)) :
    lexemesFrom p ('"' :: rest) =
      ⟨p, .token (.string body)⟩ ::
        lexemesFrom (((p.advance '"').after body).advance '"') behind := by
  simp [lexemesFrom_cons, h]

theorem lexemesFrom_unterminated (h : readBody rest = (body, none)) :
    lexemesFrom p ('"' :: rest) = [⟨p, .unterminated body⟩] := by
  simp [lexemesFrom_cons, h]

theorem lexemesFrom_atom (h : isDelimiter c = false) :
    lexemesFrom p (c :: rest) =
      ⟨p, .token (.atom (c :: atomHead rest))⟩ ::
        lexemesFrom ((p.advance c).after (atomHead rest)) (atomTail rest) := by
  simp only [isDelimiter, Bool.or_eq_false_iff, decide_eq_false_iff_not] at h
  obtain ⟨⟨⟨⟨hblank, hopening⟩, hclosing⟩, hquote⟩, hsemicolon⟩ := h
  have hnone := mt isBlank_iff.mpr (Bool.eq_false_iff.mp hblank)
  rw [lexemesFrom_cons, if_neg hnone, if_neg hsemicolon, if_neg hopening, if_neg hclosing,
    if_neg hquote]

end Next

/-! ### Literals -/

/-- A character that neither ends a body nor takes the next one with it is no backslash. -/
theorem ne_backslash {c : Char} {rest : Text} (hlast : c = '\\' → rest = [] → False)
    (hpair : ∀ d more, c = '\\' → rest = d :: more → False) : c ≠ '\\' := by
  rintro rfl
  cases rest with
  | nil => exact hlast rfl rfl
  | cons d more => exact hpair d more rfl rfl

theorem readBody_cons_of_ne {c : Char} (hquote : c ≠ '"') (hbackslash : c ≠ '\\') (rest : Text) :
    readBody (c :: rest) = (c :: (readBody rest).1, (readBody rest).2) := by
  rw [readBody]
  · exact hquote
  · exact fun _ _ h => absurd h hbackslash

theorem bodyTail_cases (text : Text) :
    bodyTail text = [] ∨ ∃ rest, bodyTail text = '"' :: rest := by
  fun_induction bodyTail text with
  | case1 => exact .inl rfl
  | case2 rest => exact .inr ⟨rest, rfl⟩
  | case3 _ _ ih => exact ih
  | case4 _ _ _ _ ih => exact ih

theorem readBody_eq_none {text : Text} (h : bodyTail text = []) :
    readBody text = (bodyHead text, none) := by
  fun_induction readBody text <;> simp_all [bodyHead, bodyTail]

theorem readBody_eq_some {text rest : Text} (h : bodyTail text = '"' :: rest) :
    readBody text = (bodyHead text, some rest) := by
  fun_induction readBody text <;> simp_all [bodyHead, bodyTail]

/-! ### Cursors -/

namespace Cursor

variable {cursor next : Cursor} {c : Char}

/-- The lexemes from a cursor on. -/
def lexemes (cursor : Cursor) : List (Located Lexeme) := lexemesFrom cursor.position cursor.text

theorem pass?_eq_some_iff :
    cursor.pass? c = some next ↔
      ∃ rest, cursor.text = c :: rest ∧ next = ⟨cursor.position.advance c, rest⟩ := by
  unfold pass?
  split
  · simp_all
  · next first rest ht =>
    rw [ht]
    split
    · next h => subst h; simp [eq_comm]
    · next h => simp [h]

theorem pass?_of_text {rest : Text} (h : cursor.text = c :: rest) :
    cursor.pass? c = some ⟨cursor.position.advance c, rest⟩ :=
  pass?_eq_some_iff.mpr ⟨rest, h, rfl⟩

theorem lexemes_of_text {text : Text} (h : cursor.text = text) :
    cursor.lexemes = lexemesFrom cursor.position text := by
  rw [lexemes, h]

theorem lexemes_of_nil (h : cursor.text = []) : cursor.lexemes = [] := by
  simp [lexemes, h]

/-- Blanks are no lexemes. -/
theorem lexemes_passWhile_isBlank (cursor : Cursor) :
    (cursor.passWhile isBlank).lexemes = cursor.lexemes := by
  obtain ⟨position, text⟩ := cursor
  simp only [lexemes, passWhile]
  induction text generalizing position with
  | nil => simp
  | cons first rest ih =>
    by_cases h : isBlank first = true
    · simp only [List.takeWhile_cons, List.dropWhile_cons, h, if_true, Position.after_cons]
      rw [ih, lexemesFrom_blank h]
    · simp [h]

theorem lexemes_of_passComment? (h : cursor.passComment? = some next) :
    next.lexemes = cursor.lexemes := by
  unfold passComment? at h
  split at h
  · cases h
  · next inner hinner =>
    obtain ⟨rest, htext, rfl⟩ := pass?_eq_some_iff.mp hinner
    cases h
    simp only [lexemes, passWhile, htext, lexemesFrom_comment]
    rfl

/-- Blanks and comments are no lexemes. -/
theorem lexemes_skip (cursor : Cursor) : cursor.skip.lexemes = cursor.lexemes := by
  fun_induction skip cursor with
  | case1 cursor h => exact lexemes_passWhile_isBlank cursor
  | case2 cursor next h ih =>
    rw [ih, lexemes_of_passComment? h, lexemes_passWhile_isBlank]

/-- Behind all blanks and comments there is neither. -/
theorem skip_cases (cursor : Cursor) :
    cursor.skip.text = [] ∨
      ∃ c rest, cursor.skip.text = c :: rest ∧ isBlank c = false ∧ c ≠ ';' := by
  fun_induction skip cursor with
  | case1 cursor h =>
    cases htext : (cursor.passWhile isBlank).text with
    | nil => exact .inl rfl
    | cons c rest =>
      refine .inr ⟨c, rest, rfl, ?_, ?_⟩
      · have hhead := List.head?_dropWhile_not isBlank cursor.text
        simp only [passWhile] at htext
        simpa [htext] using hhead
      · rintro rfl
        simp [passComment?, pass?_of_text htext] at h
  | case2 cursor next h ih => exact ih

end Cursor

/-! ### Lexemes without their places -/

/-- Lexemes without their places. -/
def values (lexemes : List (Located Lexeme)) : List Lexeme := lexemes.map (·.value)

@[simp] theorem values_nil : values [] = [] := rfl

@[simp] theorem values_cons (lexeme : Located Lexeme) (rest : List (Located Lexeme)) :
    values (lexeme :: rest) = lexeme.value :: values rest := rfl

/-- The lexemes of a text, without their places. -/
def lex (text : Text) : List Lexeme := values (lexemes text)

/-- What the lexemes of a text are does not depend on where it stands. -/
theorem values_lexemesFrom (p : Position) (text : Text) :
    values (lexemesFrom p text) = lex text := by
  suffices h : ∀ q, values (lexemesFrom p text) = values (lexemesFrom q text) from h _
  intro q
  fun_induction lexemesFrom p text generalizing q with
  | case1 => simp
  | case2 p c rest h ih => rw [lexemesFrom_blank (isBlank_iff.mpr h)]; exact ih _
  | case3 p rest _ ih => rw [lexemesFrom_comment, ih]
  | case4 p rest _ _ ih => rw [lexemesFrom_opening, values_cons, values_cons, ih]
  | case5 p rest _ _ _ ih => rw [lexemesFrom_closing, values_cons, values_cons, ih]
  | case6 p rest body behind hbody _ _ _ _ ih =>
    rw [lexemesFrom_string hbody, values_cons, values_cons, ih]
  | case7 p rest body hbody => rw [lexemesFrom_unterminated hbody]; rfl
  | case8 p c rest h1 h2 h3 h4 h5 ih =>
    rw [lexemesFrom_atom (by simp_all [isDelimiter, isBlank]), values_cons, values_cons, ih]

end GoldenFiles.Sexp
