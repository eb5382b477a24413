import GoldenFiles.Text

/-!
# Tokens of symbolic expressions

Four characters are blank, a semicolon starts a comment that runs to the end of its line, and the
remaining delimiters are parentheses and double quotes. Everything else belongs to atoms.

## Main definitions

* `Token` — parentheses, atoms and string literals
* `isBlank`, `isDelimiter` — the two character classes
* `ValidAtom`, `validBody` — what the text of an atom and the body of a literal may be
-/

namespace GoldenFiles.Sexp

/-- A token of a program without its blanks and comments. The body of a string literal is kept as
written, escapes included. -/
inductive Token
  | opening
  | closing
  | atom (text : Text)
  | string (body : Text)
  deriving DecidableEq, Repr

/-- The characters that separate tokens without meaning anything. -/
def isBlank (c : Char) : Bool := c = ' ' || c = '\t' || c = '\r' || c = '\n'

/-- The characters at which an atom ends. -/
def isDelimiter (c : Char) : Bool := isBlank c || c = '(' || c = ')' || c = '"' || c = ';'

theorem isBlank_iff {c : Char} : isBlank c = true ↔ c ∈ [' ', '\t', '\r', '\n'] := by
  simp [isBlank, or_assoc]

theorem isDelimiter_iff {c : Char} :
    isDelimiter c = true ↔ c ∈ [' ', '\t', '\r', '\n', '(', ')', '"', ';'] := by
  simp [isDelimiter, isBlank, or_assoc]

/-- An atom is not empty and holds neither blanks nor parentheses, quotes or semicolons. -/
def ValidAtom (text : Text) : Prop :=
  text ≠ [] ∧ ∀ c ∈ text, c ∉ [' ', '\t', '\r', '\n', '(', ')', '"', ';']

/-- An atom is not empty and holds no delimiter. -/
theorem validAtom_iff {text : Text} :
    ValidAtom text ↔ text ≠ [] ∧ ∀ c ∈ text, isDelimiter c = false := by
  simp only [ValidAtom, ← isDelimiter_iff, Bool.not_eq_true]

/-- A body can stand between quotes: read from the left, with every backslash taking the next
character with it, it shows no quote and leaves no backslash over. -/
def validBody : Text → Bool
  | [] => true
  | '"' :: _ => false
  | ['\\'] => false
  | '\\' :: _ :: rest => validBody rest
  | _ :: rest => validBody rest

end GoldenFiles.Sexp
