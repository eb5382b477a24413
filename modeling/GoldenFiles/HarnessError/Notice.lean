import GoldenFiles.HarnessError
import GoldenFiles.Text.Wrap

/-!
# Notices of errors

The notice that a user gets of an error that ended a run: its code, what went wrong, what was behind
it, and advice, in lines that fit a terminal.

## Main definitions

* `HarnessError.notice` — the notice of an error
-/

namespace GoldenFiles.HarnessError

/-- The columns of a line of a notice. -/
def noticeWidth : Nat := 78

/-- The lines of causes, each behind an arrow; the last one ends the line that connects them. -/
def causeLines : List Text → List Text
  | [] => []
  | [cause] => [Text.fill noticeWidth "  ╰─▶ ".toList "      ".toList cause]
  | cause :: rest =>
    Text.fill noticeWidth "  ├─▶ ".toList "  │   ".toList cause :: causeLines rest

/-- The lines of advice. -/
def helpLines : Option Text → List Text
  | none => []
  | some help => [Text.fill noticeWidth "  help: ".toList "        ".toList help]

/-- The notice of an error. -/
def notice (error : HarnessError) : Text :=
  Text.unpieces (error.code :: [] ::
    (Text.fill noticeWidth "  × ".toList "  │ ".toList error.message ::
      (causeLines error.causes ++ helpLines error.help?))) ++ ['\n']

end GoldenFiles.HarnessError
