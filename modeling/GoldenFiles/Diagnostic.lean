import GoldenFiles.Text.Position

/-!
# Diagnostics

What a parser has to say about a source. A diagnostic is displayed on one line, whatever its
message holds, so that it can follow a program as a comment.

## Main definitions

* `Severity` — error or warning
* `Diagnostic` — a message with its place
* `Diagnostic.text` — the displayed line
-/

namespace GoldenFiles

/-- How bad a finding is. -/
inductive Severity | error | warning
  deriving DecidableEq, Repr

/-- The word a displayed diagnostic begins with. -/
def Severity.label : Severity → Text
  | .error => "ERROR".toList
  | .warning => "WARNING".toList

/-- A message about a source file. The line and the column are as the parser gives them, counted
from one where they mean a place in the file. -/
structure Diagnostic where
  severity : Severity
  message : Text
  filename : Text
  line : Nat
  column : Nat
  deriving DecidableEq, Repr

namespace Diagnostic

/-- A character of a message as it is displayed: line breaks become spaces. -/
def displayed (c : Char) : Char := if c = '\r' ∨ c = '\n' then ' ' else c

/-- The displayed diagnostic. -/
def text (d : Diagnostic) : Text :=
  d.severity.label ++ ": ".toList ++ d.message.map displayed ++ " in ".toList ++ d.filename ++
    "(".toList ++ Text.ofNat d.line ++ ",".toList ++ Text.ofNat d.column ++ ")".toList

/-- A displayed message holds no line feed. -/
theorem lineFeed_notMem_map_displayed (message : Text) : '\n' ∉ message.map displayed := by
  simp only [List.mem_map, not_exists, not_and]
  intro c _ h
  unfold displayed at h
  split at h
  · exact absurd h (by decide)
  · next hc => exact hc (.inr h)

end Diagnostic

end GoldenFiles
