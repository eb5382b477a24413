import GoldenFiles.Pipeline
import GoldenFiles.Sexp.Printer
import GoldenFiles.Sexp.Reader
import GoldenFiles.Text.Width

/-!
# Symbolic expressions as a pipeline

Sources are read with recovery and printed within a number of columns, counted as a terminal shows
them. Comments begin with a semicolon. An instance remembers nothing.

## Main definitions

* `Sexp.parse` — program and diagnostics of a source
* `Sexp.pipeline` — the pipeline that prints within a given number of columns
-/

namespace GoldenFiles.Sexp

/-- The program of a source and the diagnostics for it under a file name. -/
def parse (source filename : Text) : Parsed (List Form) where
  program := program source
  diagnostics := diagnostics source filename

/-- The marker that begins a comment. -/
def lineComment : Text := ";".toList

/-- Reads and prints symbolic expressions, breaking lists that would pass column `limit`. -/
def pipeline (limit : Nat) : Pipeline where
  State := Unit
  Program := List Form
  initial := ()
  parse := fun _ source filename => (parse source filename, ())
  serialize := fun _ forms => printProgram Text.displayWidth limit forms
  lineComment := fun _ => lineComment

end GoldenFiles.Sexp
