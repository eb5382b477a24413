import GoldenFiles.Diagnostic

/-!
# Pipelines and differs

A pipeline turns source text into canonical text: it parses, which never fails and may leave
diagnostics, and it prints what it has parsed. An instance of a pipeline may keep state from one
parse to the next; a fresh instance is in the initial state. A differ compares two texts.

## Main definitions

* `Pipeline` — a parser and a printer for one language
* `renderOutput` — printed text followed by a comment line for each diagnostic
* `Pipeline.output` — what one instance makes of a source
* `Differ` — a comparison of an expected text with an actual one
-/

namespace GoldenFiles

/-- What a parser makes of a source: a program, and everything it complains about. -/
structure Parsed (Program : Type) where
  program : Program
  diagnostics : List Diagnostic

/-- The comment marker of languages that do not choose another. -/
def defaultLineComment : Text := "//".toList

/-- A parser and a printer for one language. Parsing is given the source and the name under which
diagnostics mention it. -/
structure Pipeline where
  /-- What an instance remembers between parses. -/
  State : Type
  /-- What the parser makes and the printer takes. -/
  Program : Type
  /-- The state of a fresh instance. -/
  initial : State
  /-- Parses a source under a file name. -/
  parse : State → Text → Text → Parsed Program × State
  /-- Prints a program in canonical form. -/
  serialize : State → Program → Text
  /-- The marker that begins a comment which ends with its line. -/
  lineComment : State → Text := fun _ => defaultLineComment

/-- The comment line for a diagnostic. -/
def commentLine (marker : Text) (d : Diagnostic) : Text := marker ++ ' ' :: (d.text ++ ['\n'])

/-- Printed text followed by one comment line for each diagnostic. -/
def renderOutput (serialized : Text) (diagnostics : List Diagnostic) (marker : Text) : Text :=
  serialized ++ diagnostics.flatMap (commentLine marker)

/-- The output of an instance for a source, and the state in which that leaves the instance. -/
def Pipeline.output (p : Pipeline) (state : p.State) (source filename : Text) :
    Text × p.State :=
  let (parsed, next) := p.parse state source filename
  (renderOutput (p.serialize next parsed.program) parsed.diagnostics (p.lineComment next), next)

/-- A comparison of two texts. It is given a label for what is compared, the expected text and the
actual text, and answers with a rendering of the differences, or with nothing where the texts are
taken to agree. -/
abbrev Differ := Text → Text → Text → Option Text

end GoldenFiles
