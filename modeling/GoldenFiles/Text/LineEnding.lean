import GoldenFiles.Text

/-!
# Line endings

Texts are compared, and sources parsed, after every pair of carriage return and line feed has become
a line feed. Carriage returns that stand alone stay. The pairs are found in one pass from the left,
so a carriage return before a pair is kept, even though it then stands before a line feed.

## Main definitions

* `Text.hasPair` — whether a text holds such a pair
* `Text.normalize` — line feeds instead of pairs
* `Text.consoleLines` — the lines in which a console shows a text
-/

namespace GoldenFiles.Text

/-- Whether a carriage return is followed by a line feed somewhere. -/
def hasPair : Text → Bool
  | '\r' :: '\n' :: _ => true
  | _ :: rest => hasPair rest
  | [] => false

/-- Turns every pair of carriage return and line feed into a line feed. -/
def normalize : Text → Text
  | '\r' :: '\n' :: rest => '\n' :: normalize rest
  | c :: rest => c :: normalize rest
  | [] => []

/-- A line without the carriage return at its end, if it has one. -/
def withoutReturn (line : Text) : Text :=
  if line.getLast? = some '\r' then line.dropLast else line

/-- The pieces of a text as a console shows them: a carriage return before a line feed belongs to
the line break, and behind the last line feed there is no further line unless it holds something. -/
def consoleLines : Text → List Text
  | text =>
    let lines := pieces text
    lines.dropLast.map withoutReturn ++ (if lines.getLast? = some [] then [] else
      lines.getLast?.toList)

/-- A text without a pair is normal already. -/
theorem normalize_eq_self {text : Text} (h : hasPair text = false) : normalize text = text := by
  fun_induction normalize text with
  | case1 => simp [hasPair] at h
  | case2 c rest hc ih =>
    rw [ih]
    rw [hasPair] at h
    · exact h
    · exact hc
  | case3 => rfl

end GoldenFiles.Text
