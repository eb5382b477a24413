import GoldenFiles.Text

/-!
# Common lines of two texts

The lines that two texts have in common are found from a table of lengths: for every line of the
first text and every line of the second, how many lines the parts up to there can have in common.
The table is stored row after row in one array, and a walk through it from the last entry to the
first collects the common lines.

## Main definitions

* `LengthTable` — the lengths, row by row
* `LengthTable.ofLines` — the table of two lists of lines
* `commonLines` — the lines that the walk collects
* `distance` — how many lines are left
-/

namespace GoldenFiles.Diff

/-! ### The table -/

/-- How many lines each pair of beginnings has in common at most. -/
structure LengthTable where
  /-- The number of lines of the second text, which is the length of a row. -/
  columns : Nat
  /-- All rows, one after the other. -/
  entries : Array Nat

/-- A row of the table, from the row above it. For the first line that is left, `corner` is the
entry above and before, and `before` the entry before. -/
def nextRow (line : Text) (corner before : Nat) : List Text → List Nat → List Nat
  | other :: others, above :: row =>
    let here := if line = other then corner + 1 else max before above
    here :: nextRow line above here others row
  | _, _ => []

/-- The rows of the table below a given row. -/
def rowsBelow (others : List Text) : List Text → List Nat → List (List Nat)
  | [], _ => []
  | line :: lines, row =>
    let next := nextRow line 0 0 others row
    next :: rowsBelow others lines next

namespace LengthTable

/-- The table for the lines of two texts. -/
def ofLines (lines others : List Text) : LengthTable where
  columns := others.length
  entries := (rowsBelow others lines (List.replicate others.length 0)).flatten.toArray

/-- The entry above the one in the given row and column. -/
def above (table : LengthTable) (row column : Nat) : Nat :=
  table.entries.getD ((row - 1) * table.columns + column) 0

/-- The entry stored before the one in the given row and column: the one to its left or, in the
first column, the last entry of the row above. -/
def before (table : LengthTable) (row column : Nat) : Nat :=
  table.entries.getD (row * table.columns + column - 1) 0

end LengthTable

/-! ### The walk -/

/-- Walks from the last entry towards the first. Both lists are reversed beginnings of the texts, so
their heads are the lines at the current entry; `found` are the common lines behind it. -/
def walk (table : LengthTable) : List Text → List Text → List Text → List Text
  | line :: lines, other :: others, found =>
    if line = other then
      walk table lines others (line :: found)
    else if lines = [] ∧ others = [] then
      found
    -- In the first row there is only a way to the left. In the first column the entry before is the
    -- last one of the row above.
    else if lines = [] ∨
        table.above lines.length others.length < table.before lines.length others.length then
      walk table (line :: lines) others found
    else
      walk table lines (other :: others) found
  | _, _, found => found
  termination_by lines others => lines.length + others.length

/-- Lines common to both lists, in their order. -/
def commonLines (lines others : List Text) : List Text :=
  walk (.ofLines lines others) lines.reverse others.reverse []

/-- The number of lines of either list that are not among the common ones. -/
def distance (lines others : List Text) : Nat :=
  lines.length + others.length - 2 * (commonLines lines others).length

end GoldenFiles.Diff
