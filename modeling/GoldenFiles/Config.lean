import GoldenFiles.Path

/-!
# Configuration of a run

## Main definitions

* `Mode` — whether fixtures are made or compared with
* `ColourMode` — when reports are coloured
* `Config` — everything a run needs to know
-/

namespace GoldenFiles

/-- What a run does with fixtures. -/
inductive Mode
  /-- Every fixture is replaced by the output. -/
  | create
  /-- Every output is compared with the fixture. -/
  | verify
  deriving DecidableEq, Repr

/-- When a report is coloured. -/
inductive ColourMode | auto | always | never
  deriving DecidableEq, Repr

/-- Whether a report is coloured, given whether it goes to a terminal. -/
def ColourMode.coloured (mode : ColourMode) (terminal : Bool) : Bool :=
  match mode with
  | .auto => terminal
  | .always => true
  | .never => false

/-- Everything a run needs to know. An empty selection stands for all cases. -/
structure Config where
  root : Path := .ofText "tests/parser".toList
  extension : Text := "sexp".toList
  mode : Mode := .verify
  selection : List Text := []
  colour : ColourMode := .auto
  deriving DecidableEq, Repr

/-- The test root as headers and diffs are labelled: its last name. -/
def Config.rootLabel (config : Config) : Text := config.root.label

end GoldenFiles
