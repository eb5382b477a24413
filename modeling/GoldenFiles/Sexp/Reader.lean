import GoldenFiles.Diagnostic
import GoldenFiles.Sexp.Form
import GoldenFiles.Sexp.Grammar

/-!
# Reading programs

Every source text is read into a program. What is malformed is mended, and each mending is reported:
a closing parenthesis with no list open is dropped, a list still open at the end of the source is
closed there, and so is a string literal, after a last backslash that would have escaped the closing
quote has been dropped. Escapes that mean nothing are kept as written and reported as warnings.

## Main definitions

* `Problem` — what can be wrong with a source
* `Tree.form`, `Tree.problems` — the form that a rule has read, and what is wrong with it
* `program`, `diagnostics` — the program of a source, and the diagnostics in the order in which they
  arise
-/

namespace GoldenFiles.Sexp

/-! ### Problems -/

/-- What can be wrong with a source. -/
inductive Problem
  | strayClosing
  | unclosedList
  | unterminatedString
  | unknownEscape (c : Char)
  deriving DecidableEq, Repr

namespace Problem

/-- An escape that means nothing is a warning, everything else an error. -/
def severity : Problem → Severity
  | .unknownEscape _ => .warning
  | _ => .error

/-- The wording of a problem. -/
def message : Problem → Text
  | .strayClosing => "Unexpected ')'".toList
  | .unclosedList => "')' expected".toList
  | .unterminatedString => "Unterminated string literal".toList
  | .unknownEscape c => "Unknown escape sequence '\\".toList ++ [c] ++ "'".toList

/-- The problem as a diagnostic about a file. -/
def diagnostic (filename : Text) (problem : Located Problem) : Diagnostic where
  severity := problem.value.severity
  message := problem.value.message
  filename := filename
  line := problem.position.line
  column := problem.position.column

end Problem

/-! ### String literals -/

/-- The characters that may follow a backslash in a string literal. -/
def isKnownEscape (c : Char) : Bool := c = '"' || c = '\\' || c = 'n' || c = 't' || c = 'r'

theorem isKnownEscape_iff {c : Char} :
    isKnownEscape c = true ↔ c ∈ ['"', '\\', 'n', 't', 'r'] := by
  simp [isKnownEscape, or_assoc]

/-- The escapes of a body that mean nothing, each at its backslash. -/
def unknownEscapes (p : Position) : Text → List (Located Problem)
  | [] => []
  | '\\' :: c :: rest =>
    let behind := unknownEscapes ((p.advance '\\').advance c) rest
    if isKnownEscape c then behind else ⟨p, .unknownEscape c⟩ :: behind
  | c :: rest => unknownEscapes (p.advance c) rest

/-- The number of backslashes at the end of a text. -/
def trailingBackslashes (text : Text) : Nat := (text.reverse.takeWhile (· = '\\')).length

/-- A body to which a closing quote can be added: where the backslashes at the end are odd in
number, the last one would escape the quote and is dropped. -/
def closableBody (body : Text) : Text :=
  if trailingBackslashes body % 2 = 1 then body.dropLast else body

/-! ### Forms -/

mutual

/-- The form that a tree stands for. -/
def Tree.form : Tree → Form
  | .list _ items _ => .list (formsOf items)
  | .string body => .string body.value
  | .unterminated _ body => .string (closableBody body.value)
  | .atom text => .atom text

/-- The forms that trees stand for. -/
def formsOf : List Tree → List Form
  | [] => []
  | tree :: rest => tree.form :: formsOf rest

end

mutual

/-- What is wrong with a tree. That a list is not closed is found behind its items, and that a
literal is not closed before its escapes. -/
def Tree.problems : Tree → List (Located Problem)
  | .list start items closed =>
    problemsOf items ++ if closed then [] else [⟨start, .unclosedList⟩]
  | .string body => unknownEscapes body.position body.value
  | .unterminated start body =>
    ⟨start, .unterminatedString⟩ :: unknownEscapes body.position body.value
  | .atom _ => []

/-- What is wrong with trees, one after the other. -/
def problemsOf : List Tree → List (Located Problem)
  | [] => []
  | tree :: rest => tree.problems ++ problemsOf rest

end

/-! ### Programs -/

/-- The form that a part of a program is, if it is one. -/
def Item.form? : Item → Option Form
  | .form tree => some tree.form
  | .stray _ => none

/-- What is wrong with a part of a program. -/
def Item.problems : Item → List (Located Problem)
  | .form tree => tree.problems
  | .stray start => [⟨start, .strayClosing⟩]

/-- The program of a source. A source that is none has an empty one. -/
def program (source : Text) : List Form :=
  match items? source with
  | .ok items => items.filterMap Item.form?
  | .error _ => []

/-- The diagnostics for a source that is called `filename`: the problems of its parts, in the order
in which they arise, or why it is no program. -/
def diagnostics (source filename : Text) : List Diagnostic :=
  match items? source with
  | .ok items => (items.flatMap Item.problems).map (Problem.diagnostic filename)
  | .error refused =>
    [⟨.error, refused.value, filename, refused.position.line, refused.position.column⟩]

end GoldenFiles.Sexp
