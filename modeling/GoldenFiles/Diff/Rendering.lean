import GoldenFiles.Diff.TaggedLine
import GoldenFiles.Pipeline

/-!
# Rendering of differences

Changed lines are shown with the unchanged lines around them. Of a long unchanged stretch only the
lines next to a change are kept and the others counted. Before the first change and behind the last
one no line is kept for a change on the other side.

## Main definitions

* `DiffLine` — a line of a rendering
* `runs` — maximal stretches of changed or of unchanged lines
* `elide` — the lines of a rendering
* `lineDiffer` — the differ that compares line by line
-/

namespace GoldenFiles.Diff

/-! ### Lines of a rendering -/

/-- A line of a rendering: a line of one of the texts, or the number of unchanged lines left out. -/
inductive DiffLine
  | shown (line : TaggedLine)
  | elided (count : Nat)
  deriving DecidableEq, Repr

/-- The mark at the head of a shown line. -/
def Tag.mark : Tag → Char
  | .same => ' '
  | .added => '+'
  | .removed => '-'

/-- A line of a rendering as text. -/
def DiffLine.text : DiffLine → Text
  | .shown line => line.tag.mark :: line.line
  | .elided count => "@@ ".toList ++ Text.ofNat count ++ " unchanged lines @@".toList

/-! ### Elision -/

/-- Whether a line is unchanged. -/
def TaggedLine.isSame (line : TaggedLine) : Bool := line.tag = .same

/-- The maximal stretches of lines that are all changed or all unchanged. -/
def runs : List TaggedLine → List (List TaggedLine)
  | [] => []
  | line :: rest =>
    match runs rest with
    | (next :: run) :: others =>
      if line.isSame = next.isSame then
        (line :: next :: run) :: others
      else
        [line] :: (next :: run) :: others
    | others => [line] :: others

/-- An unchanged stretch of which `head` and `tail` lines are kept at its ends. -/
def elideRun (head tail : Nat) (run : List TaggedLine) : List DiffLine :=
  if run.length ≤ head + tail then
    run.map .shown
  else
    (run.take head).map .shown ++
      .elided (run.length - head - tail) :: (run.drop (run.length - tail)).map .shown

/-- The lines shown for stretches that follow each other; `leading` tells that nothing precedes
them. -/
def elideRuns (context : Nat) (leading : Bool) : List (List TaggedLine) → List DiffLine
  | [] => []
  | run :: rest =>
    (if run.head?.any TaggedLine.isSame then
      elideRun (if leading then 0 else context) (if rest = [] then 0 else context) run
    else
      run.map .shown) ++ elideRuns context false rest

/-- The lines of a rendering that keeps `context` unchanged lines around every change. -/
def elide (context : Nat) (lines : List TaggedLine) : List DiffLine :=
  elideRuns context true (runs lines)

/-! ### The differ -/

/-- Drops an unchanged empty line at the end, which two texts have in common that both end in a line
feed. -/
def withoutFinalEmpty (lines : List TaggedLine) : List TaggedLine :=
  if lines.getLast? = some ⟨.same, []⟩ then lines.dropLast else lines

/-- The two lines that say what is compared. -/
def headerLines (label : Text) : List Text :=
  ["--- expected ".toList ++ label, "+++ actual ".toList ++ label]

/-- The lines of the rendering below its header. -/
def bodyLines (context : Nat) (expected actual : Text) : List DiffLine :=
  elide context (withoutFinalEmpty (taggedLines expected actual))

/-- The rendering of the differences between two texts. -/
def render (context : Nat) (label expected actual : Text) : Text :=
  Text.unpieces (headerLines label ++ (bodyLines context expected actual).map DiffLine.text)

/-- Compares line by line and shows `context` unchanged lines around every change. Texts agree if
they are equal, or if there is no line that they do not have in common. -/
def lineDiffer (context : Nat) : Differ := fun label expected actual =>
  if expected = actual then none
  else if distance (Text.pieces expected) (Text.pieces actual) = 0 then none
  else some (render context label expected actual)

/-- The number of unchanged lines shown around a change, unless another is asked for. -/
def defaultContext : Nat := 3

end GoldenFiles.Diff
