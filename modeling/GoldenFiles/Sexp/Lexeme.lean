import GoldenFiles.Sexp.Token
import GoldenFiles.Text.Position

/-!
# Lexemes of a source text

A source text is read from the left: blanks and comments are skipped, an atom is a maximal run of
characters that are no delimiters, and a string literal runs to the first quote that no backslash
took with it. A literal whose quote never comes reaches to the end of the source. Every text can be
read, and every lexeme knows where it begins.

## Main definitions

* `Lexeme` — a token, or a literal that is never closed
* `readBody` — the body of a literal and what follows its closing quote
* `lexemes` — all lexemes of a source
-/

namespace GoldenFiles.Sexp

/-- What a source text consists of, blanks and comments aside. The body of an unterminated literal
is everything behind its opening quote. -/
inductive Lexeme
  | token (token : Token)
  | unterminated (body : Text)
  deriving DecidableEq, Repr

/-- The body of a string literal whose opening quote has been read, and what follows the closing
quote, if it comes. A backslash takes the next character with it; at the end of the source it stands
for itself. -/
def readBody : Text → Text × Option Text
  | [] => ([], none)
  | '"' :: rest => ([], some rest)
  | '\\' :: c :: rest => ('\\' :: c :: (readBody rest).1, (readBody rest).2)
  | c :: rest => (c :: (readBody rest).1, (readBody rest).2)

theorem length_lt_of_readBody {text body rest : Text} (h : readBody text = (body, some rest)) :
    rest.length < text.length := by
  fun_induction readBody text generalizing body with
  | case1 => simp at h
  | case2 => simp_all
  | case3 c r ih => grind
  | case4 c r _ _ ih => grind

/-- The characters of an atom at the head of a text. -/
def atomHead (text : Text) : Text :=
  text.takeWhile (· ∉ [' ', '\t', '\r', '\n', '(', ')', '"', ';'])

/-- What follows the atom at the head of a text. -/
def atomTail (text : Text) : Text :=
  text.dropWhile (· ∉ [' ', '\t', '\r', '\n', '(', ')', '"', ';'])

/-- The characters of a comment, up to the end of the line. -/
def commentHead (text : Text) : Text := text.takeWhile (· ≠ '\n')

/-- What follows a comment, the line feed included. -/
def commentTail (text : Text) : Text := text.dropWhile (· ≠ '\n')

theorem length_atomTail_le (text : Text) : (atomTail text).length ≤ text.length :=
  (List.dropWhile_sublist _).length_le

theorem length_commentTail_le (text : Text) : (commentTail text).length ≤ text.length :=
  (List.dropWhile_sublist _).length_le

/-- The lexemes of a source text that begins at `p`. -/
def lexemesFrom (p : Position) : Text → List (Located Lexeme)
  | [] => []
  | c :: rest =>
    if c ∈ [' ', '\t', '\r', '\n'] then
      lexemesFrom (p.advance c) rest
    else if c = ';' then
      lexemesFrom ((p.advance c).after (commentHead rest)) (commentTail rest)
    else if c = '(' then
      ⟨p, .token .opening⟩ :: lexemesFrom (p.advance c) rest
    else if c = ')' then
      ⟨p, .token .closing⟩ :: lexemesFrom (p.advance c) rest
    else if c = '"' then
      match _h : readBody rest with
      | (body, some behind) =>
        ⟨p, .token (.string body)⟩ ::
          lexemesFrom (((p.advance c).after body).advance '"') behind
      | (body, none) => [⟨p, .unterminated body⟩]
    else
      ⟨p, .token (.atom (c :: atomHead rest))⟩ ::
        lexemesFrom ((p.advance c).after (atomHead rest)) (atomTail rest)
  termination_by text => text.length
  decreasing_by
    all_goals simp only [List.length_cons]
    all_goals
      first
      | omega
      | exact Nat.lt_succ_of_le (length_commentTail_le _)
      | exact Nat.lt_succ_of_lt (length_lt_of_readBody (by assumption))
      | exact Nat.lt_succ_of_le (length_atomTail_le _)

/-- The lexemes of a source text. -/
def lexemes (source : Text) : List (Located Lexeme) := lexemesFrom .start source

end GoldenFiles.Sexp
