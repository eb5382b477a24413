import GoldenFiles.Fixture

/-!
# Summaries

## Main definitions

* `Summary` — how many cases ended how
* `Summary.record` — one more case
* `Summary.exitCode` — the exit status of a run
-/

namespace GoldenFiles

/-- How many cases ended how. -/
structure Summary where
  total : Nat := 0
  created : Nat := 0
  passed : Nat := 0
  failed : Nat := 0
  deriving DecidableEq, Repr

namespace Summary

/-- One more case. -/
def record (summary : Summary) (result : CaseResult) : Summary :=
  match result.outcome with
  | .created => { summary with total := summary.total + 1, created := summary.created + 1 }
  | .pass => { summary with total := summary.total + 1, passed := summary.passed + 1 }
  | .fail _ => { summary with total := summary.total + 1, failed := summary.failed + 1 }

/-- The summary of cases that have ended. -/
def ofResults (results : List CaseResult) : Summary := results.foldl record {}

/-- Whether no case failed. -/
def isSuccess (summary : Summary) : Bool := summary.failed = 0

/-- The exit status of a run. -/
def exitCode (summary : Summary) : Nat := if summary.isSuccess then 0 else 1

end Summary

end GoldenFiles
