import GoldenFiles.CommandLine.Help
import GoldenFiles.Diff.Rendering
import GoldenFiles.Harness
import GoldenFiles.HarnessError.Notice
import GoldenFiles.Sexp.Language

/-!
# The command line

A call of the program, from its arguments to its exit status: it runs the tests that its arguments
ask for with the pipeline of symbolic expressions and a differ that goes line by line.

## Main definitions

* `Execution` — what a call leaves behind
* `execute` — a call
-/

namespace GoldenFiles.CommandLine

/-- What a call leaves behind: its exit status, what it has written to its two outputs, and the
files. -/
structure Execution where
  exitCode : Nat
  stdout : Bytes
  stderr : Text
  files : FileSystem

/-- The harness of the program. -/
def harness (config : Config) : Harness where
  config := config
  pipeline := Sexp.pipeline Sexp.defaultLimit
  differ := Diff.lineDiffer Diff.defaultContext

/-- A call with a configuration; `terminal` tells whether the report goes to a terminal. -/
def executeConfig (terminal : Bool) (fs : FileSystem) (config : Config) : Execution :=
  match (harness config).run config.rootLabel
      { files := fs, sink := { coloured := config.colour.coloured terminal }, instances := [] } with
  | .ok summary world => ⟨summary.exitCode, world.sink.written, [], world.files⟩
  | .error error world => ⟨1, world.sink.written, error.notice ++ ['\n'], world.files⟩

/-- A call of the program. -/
def execute (terminal : Bool) (fs : FileSystem) (arguments : List Text) : Execution :=
  match parseArguments arguments with
  | .ok config => executeConfig terminal fs config
  | .error stop =>
    if stop.isRequest then
      ⟨0, Utf8.encode stop.message, [], fs⟩
    else
      ⟨1, [], stop.message ++ ['\n'], fs⟩

end GoldenFiles.CommandLine
