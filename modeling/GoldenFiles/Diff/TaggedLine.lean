import GoldenFiles.Diff.CommonLines

/-!
# Tagged lines

The comparison of two texts as one list of lines, each of them unchanged, added or removed. Where
both kinds of change meet, the removed lines come first.

## Main definitions

* `Tag`, `TaggedLine` — a line and what became of it
* `merge` — the tagged lines for given common lines
* `taggedLines` — the tagged lines of two texts
-/

namespace GoldenFiles.Diff

/-- What became of a line. -/
inductive Tag | same | added | removed
  deriving DecidableEq, Repr

/-- A line and what became of it. -/
structure TaggedLine where
  tag : Tag
  line : Text
  deriving DecidableEq, Repr

/-- Lines that a list holds visibly: a single empty line cannot be told from no line at all. -/
def visible (lines : List Text) : List Text := if lines = [[]] then [] else lines

/-- Tags the lines of two texts. A line is unchanged if both texts and the common lines have it
next; otherwise whatever is not the next common line has been removed or added. -/
def merge : List Text → List Text → List Text → List TaggedLine
  | line :: lines, others, common =>
    if common.head? = some line then
      match others with
      | other :: others =>
        if other = line then
          ⟨.same, line⟩ :: merge lines others common.tail
        else
          ⟨.added, other⟩ :: merge (line :: lines) others common
      -- Common lines are lines of both texts, so the second one does not end before them.
      | [] => []
    else
      ⟨.removed, line⟩ :: merge lines others common
  | [], other :: others, common =>
    if common.head? = some other then [] else ⟨.added, other⟩ :: merge [] others common
  | [], [], _ => []
  termination_by lines others => lines.length + others.length

/-- The comparison of two texts, line by line. -/
def taggedLines (expected actual : Text) : List TaggedLine :=
  let lines := Text.pieces expected
  let others := Text.pieces actual
  merge (visible lines) (visible others) (visible (commonLines lines others))

end GoldenFiles.Diff
