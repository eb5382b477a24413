import GoldenFiles.Report.StyledText
import GoldenFiles.Report.Summary

/-!
# Blocks of a report

A report has a block for every case and a banner at its end. A block begins with a header line that
names the source; once the case has ended, its outcome follows, and an empty line. The lines of a
diff are coloured by their first characters, its header by its place as well.

## Main definitions

* `Report.header`, `Report.outcome` — the two parts of a block
* `Report.banner` — the verdict on all cases
* `Report.diffColour` — the colour of a line of a diff
-/

namespace GoldenFiles.Report

/-- A line. -/
def line (colour : Option Colour) (text : Text) : StyledText := [⟨colour, text⟩, ⟨none, ['\n']⟩]

/-- The header of a case. -/
def header (labelRoot fileName : Text) : StyledText :=
  line (some .white) ("Testing ".toList ++ labelRoot ++ '/' :: fileName)

/-- The colour of the line of a diff that has so many lines before it. -/
def diffColour (index : Nat) (text : Text) : Option Colour :=
  if index < 2 ∧ ("---".toList.isPrefixOf text ∨ "+++".toList.isPrefixOf text) then some .white
  else if "+".toList.isPrefixOf text then some .green
  else if "-".toList.isPrefixOf text then some .red
  else if "@@".toList.isPrefixOf text then some .cyan
  else none

/-- The lines of a diff, the first of which has so many lines before it. -/
def diffLines (index : Nat) : List Text → StyledText
  | [] => []
  | text :: rest => line (diffColour index text) text ++ diffLines (index + 1) rest

/-- A rendered diff. -/
def diff (rendering : Text) : StyledText := diffLines 0 (Text.consoleLines rendering)

/-- The line that marks a failed case. -/
def failureLine : StyledText := line (some .red) "diff ERROR".toList

/-- The line that tells of a missing fixture. -/
def missingLine (path : Path) : StyledText :=
  line none ("missing fixture ".toList ++ path.text ++
    " (rerun with --create to generate it)".toList)

/-- What is reported of a case that has ended. -/
def status : Outcome → StyledText
  | .created => line none "Created".toList
  | .pass => line (some .green) "diff OK".toList
  | .fail (.diff rendering) => diff rendering ++ failureLine
  | .fail (.missingFixture path) => missingLine path ++ failureLine

/-- What follows the header of a case that has ended. -/
def outcome (outcome : Outcome) : StyledText := status outcome ++ [⟨none, ['\n']⟩]

/-- The verdict on all cases. -/
def banner (summary : Summary) : StyledText :=
  if summary.isSuccess then
    [⟨none, "[ ".toList⟩, ⟨some .white, "SUCCESS".toList⟩, ⟨none, " ]\n".toList⟩]
  else
    [⟨some .red, "ERROR: ".toList⟩,
      ⟨none, Text.ofNat summary.failed ++ " fixture tests failed\n".toList⟩]

end GoldenFiles.Report
