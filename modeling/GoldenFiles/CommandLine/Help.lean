import GoldenFiles.CommandLine.Arguments

/-!
# Texts of the command line

What the program says about its arguments: two forms of help, its version, and the wording of
problems with arguments.

## Main definitions

* `shortHelp`, `fullHelp`, `versionLine` — the answers to requests
* `ArgumentStop.message` — what is said when the reading of arguments ends
* `ArgumentStop.isRequest` — whether that was asked for
-/

namespace GoldenFiles.CommandLine

/-- Lines, each ended by a line feed. -/
def block (lines : List String) : Text := lines.flatMap fun line => line.toList ++ ['\n']

/-- What both forms of help begin with. -/
def about : List String :=
  ["Round-trips every test source through the parser/printer and compares the result against " ++
      "its committed fixture",
    "",
    "Usage: parser-fixtures [test1 test2 ...] [options]",
    "",
    "Arguments:"]

/-- Help with a line for each argument. -/
def shortHelp : Text :=
  block (about ++
    ["  [TESTS]...  Run only these tests, named by path relative to the root without extension",
      "",
      "Options:",
      "      --create           Recreates the fixture for the specified test(s) or all the " ++
        "fixtures if no specific test is given",
      "      --root <DIR>       Directory holding the test sources [default: tests/parser]",
      "      --extension <EXT>  Extension of test sources, without the dot [default: sexp]",
      "      --color <COLOR>    When to colour the report [default: auto] " ++
        "[possible values: auto, always, never]",
      "  -h, --help             Print help (see more with '--help')",
      "  -V, --version          Print version"])

/-- Help with a paragraph for each argument. -/
def fullHelp : Text :=
  block (about ++
    ["  [TESTS]...",
      "          Run only these tests, named by path relative to the root without extension",
      "",
      "Options:",
      "      --create",
      "          Recreates the fixture for the specified test(s) or all the fixtures if no " ++
        "specific test is given",
      "",
      "      --root <DIR>",
      "          Directory holding the test sources",
      "          ",
      "          [default: tests/parser]",
      "",
      "      --extension <EXT>",
      "          Extension of test sources, without the dot",
      "          ",
      "          [default: sexp]",
      "",
      "      --color <COLOR>",
      "          When to colour the report",
      "",
      "          Possible values:",
      "          - auto:   Colour only when stdout is a terminal",
      "          - always",
      "          - never",
      "          ",
      "          [default: auto]",
      "",
      "  -h, --help",
      "          Print help (see a summary with '-h')",
      "",
      "  -V, --version",
      "          Print version"])

/-- The version. -/
def versionLine : Text := block ["parser-fixtures 0.1.0"]

namespace ArgumentStop

/-- Whether the reading ended because help or the version was asked for. -/
def isRequest : ArgumentStop → Bool
  | .help _ | .version => true
  | _ => false

/-- What is said when the reading ends: the answer to a request, or a line about the problem. -/
def message : ArgumentStop → Text
  | .unknown argument =>
    "error: unexpected argument '".toList ++ argument ++ "' found".toList
  | .missingValue setting =>
    "error: a value is required for '".toList ++ setting.usage ++
      "' but none was supplied".toList
  | .invalidValue setting value =>
    "error: invalid value '".toList ++ value ++ "' for '".toList ++ setting.usage ++ "'".toList
  | .unexpectedValue flag value =>
    "error: unexpected value '".toList ++ value ++ "' for '".toList ++ flag.usage ++
      "' found; no more were expected".toList
  | .repeated usage =>
    "error: the argument '".toList ++ usage ++ "' cannot be used multiple times".toList
  | .help full => if full then fullHelp else shortHelp
  | .version => versionLine

end ArgumentStop

end GoldenFiles.CommandLine
