import GoldenFiles.FileSystem.Walk

/-!
# Errors of a run

Every way in which a run can end before all its cases are reported. A case that fails is none of
them: it is counted, and the run goes on.

## Main definitions

* `HarnessError` — the errors
* `HarnessError.message`, `HarnessError.causes` — what went wrong, and what was behind it
* `HarnessError.code`, `HarnessError.help?` — the code of an error, and advice
-/

namespace GoldenFiles

/-- What ends a run early. -/
inductive HarnessError
  | noTestsFound (root : Path)
  | noMatchingTests (requested : List Text)
  | rootNotDirectory (root : Path)
  | walk (root : Path) (fault : WalkFault)
  | readSource (path : Path) (fault : Fault)
  | readFixture (path : Path) (fault : Fault)
  | writeFixture (path : Path) (fault : Fault)
  | output (fault : Fault)
  deriving DecidableEq

namespace HarnessError

/-- What went wrong. -/
def message : HarnessError → Text
  | .noTestsFound root => "No tests found in ".toList ++ root.text
  | .noMatchingTests requested => "No matching tests: ".toList ++ Text.unwords requested
  | .rootNotDirectory root => "Test root ".toList ++ root.text ++ " is not a directory".toList
  | .walk root _ => "Failed to walk test root ".toList ++ root.text
  | .readSource path _ => "Failed to read test source ".toList ++ path.text
  | .readFixture path _ => "Failed to read fixture ".toList ++ path.text
  | .writeFixture path _ => "Failed to write fixture ".toList ++ path.text
  | .output _ => "Failed to write report output".toList

/-- What was behind it, the nearest cause first. -/
def causes : HarnessError → List Text
  | .walk _ fault => fault.messages
  | .readSource _ fault | .readFixture _ fault | .writeFixture _ fault | .output fault =>
    [fault.message]
  | .noTestsFound _ | .noMatchingTests _ | .rootNotDirectory _ => []

/-- The code of an error. -/
def code : HarnessError → Text
  | .noTestsFound _ => "parser_fixtures::discovery::empty".toList
  | .noMatchingTests _ => "parser_fixtures::discovery::no_match".toList
  | .rootNotDirectory _ => "parser_fixtures::discovery::root".toList
  | .walk _ _ => "parser_fixtures::discovery::walk".toList
  | .readSource _ _ => "parser_fixtures::io::source".toList
  | .readFixture _ _ => "parser_fixtures::io::fixture_read".toList
  | .writeFixture _ _ => "parser_fixtures::io::fixture_write".toList
  | .output _ => "parser_fixtures::io::output".toList

/-- Advice to whoever meets the error. -/
def help? : HarnessError → Option Text
  | .noTestsFound _ =>
    some ("test cases are files matching `**/<name>.<extension>` whose name does not " ++
      "start with `_`").toList
  | .noMatchingTests _ =>
    some "name cases by their path relative to the test root, without the extension".toList
  | .rootNotDirectory _ =>
    some "pass the directory holding the test sources with `--root <DIR>`".toList
  | _ => none

end HarnessError

end GoldenFiles
