import GoldenFiles.Config
import GoldenFiles.HarnessError
import GoldenFiles.TestCase

/-!
# Discovery

The cases of a run are the sources below the test root, in the order of a walk, narrowed to those
the configuration names.

## Main definitions

* `discover` — all cases below a test root
* `select` — the cases with given identities
-/

namespace GoldenFiles

/-- The cases below a test root. -/
def discover (fs : FileSystem) (root : Path) (extension : Text) :
    Except HarnessError (List TestCase) :=
  if fs.isFile root then
    .error (.rootNotDirectory root)
  else
    match fs.walk root with
    | .error fault => .error (.walk root fault)
    | .ok files => .ok (files.filterMap (TestCase.ofFile? extension))

/-- The cases whose identities are asked for, in their order; all of them, if none is asked for. -/
def select (cases : List TestCase) (selection : List Text) : Except HarnessError (List TestCase) :=
  if selection = [] then
    .ok cases
  else
    match cases.filter (·.id ∈ selection) with
    | [] => .error (.noMatchingTests selection)
    | selected => .ok selected

/-- The cases that a configuration asks for. There is at least one. -/
def Config.cases (config : Config) (fs : FileSystem) : Except HarnessError (List TestCase) :=
  match discover fs config.root config.extension with
  | .error error => .error error
  | .ok [] => .error (.noTestsFound config.root)
  | .ok cases => select cases config.selection

end GoldenFiles
