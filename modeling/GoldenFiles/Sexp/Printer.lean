import GoldenFiles.Sexp.Form

/-!
# Printing programs

A form is printed on one line if it fits. A list that does not fit keeps its head on the line of its
opening parenthesis and puts every other item on a line of its own, two columns deeper. How many
columns a text takes is a parameter, since the layout does not depend on how columns are counted.

## Main definitions

* `Form.flat` — a form on one line
* `Form.layout` — a form that begins at a given column
* `printProgram` — a program, each of its forms beginning a line
-/

namespace GoldenFiles.Sexp

/-! ### On one line -/

mutual

/-- A form on one line. -/
def Form.flat : Form → Text
  | .atom text => text
  | .string body => '"' :: (body ++ ['"'])
  | .list items => '(' :: (flatItems items ++ [')'])

/-- Forms on one line, with a space between neighbours. -/
def flatItems : List Form → Text
  | [] => []
  | form :: rest => form.flat ++ flatBehind rest

/-- Forms on one line, each behind a space. -/
def flatBehind : List Form → Text
  | [] => []
  | form :: rest => ' ' :: (form.flat ++ flatBehind rest)

end

/-! ### Over several lines -/

mutual

/-- A form that begins at `column`, on one line if its last column is at most `limit`. -/
def Form.layout (width : Text → Nat) (limit column : Nat) : Form → Text
  | .list (head :: rest) =>
    if column + width (Form.list (head :: rest)).flat ≤ limit then
      (Form.list (head :: rest)).flat
    else
      '(' :: (head.layout width limit (column + 1) ++
        (layoutBelow width limit (column + 2) rest ++ [')']))
  | .list [] => (Form.list []).flat
  | .atom text => (Form.atom text).flat
  | .string body => (Form.string body).flat

/-- Forms on lines of their own, each beginning at `column`. -/
def layoutBelow (width : Text → Nat) (limit column : Nat) : List Form → Text
  | [] => []
  | form :: rest =>
    '\n' :: (List.replicate column ' ' ++ (form.layout width limit column ++
      layoutBelow width limit column rest))

end

/-- A program, each form beginning a line of its own. -/
def printProgram (width : Text → Nat) (limit : Nat) (forms : List Form) : Text :=
  forms.flatMap fun form => form.layout width limit 0 ++ ['\n']

/-- The number of columns a list may take before it is broken, unless another is asked for. -/
def defaultLimit : Nat := 80

end GoldenFiles.Sexp
