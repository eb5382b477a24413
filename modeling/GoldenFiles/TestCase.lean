import GoldenFiles.FileSystem.Walk

/-!
# Test cases

A test case is a source file with the fixture beside it. Sources are recognised by their names: a
source ends in a dot and the extension, does not carry the mark of a fixture before that, and begins
neither with an underscore, which is for private helpers, nor with a dot, which hides a file.

## Main definitions

* `TestCase` — a case with its identity and its two files
* `isCaseFile` — the names of sources
* `TestCase.ofFile?` — the case whose source is a file, for files that are sources
* `TestCase.fixtureName` — the name of the fixture as diffs are labelled
-/

namespace GoldenFiles

/-- A test case. Its identity and its file name are relative to the test root, with slashes between
names; the identity lacks the extension. -/
structure TestCase where
  id : Text
  fileName : Text
  source : Path
  fixture : Path
  deriving DecidableEq

/-- What marks the name of a fixture. -/
def fixtureInfix : Text := "fixture".toList

/-- The ending of source names. -/
def sourceSuffix (extension : Text) : Text := '.' :: extension

/-- The ending of fixture names. -/
def fixtureSuffix (extension : Text) : Text := '.' :: (fixtureInfix ++ '.' :: extension)

/-- Whether a name is that of a source. -/
def isCaseFile (name extension : Text) : Bool :=
  name.head? != some '_' && name.head? != some '.' &&
    (sourceSuffix extension).length < name.length && (sourceSuffix extension).isSuffixOf name &&
    !(fixtureSuffix extension).isSuffixOf name

namespace TestCase

/-- The names below the test root, as they are shown, with slashes between them. -/
def relative (file : FoundFile) : Text :=
  ['/'].intercalate ((file.above ++ [file.name]).map Name.text)

/-- The case whose source is a given file, if its name can be decoded and is that of a source. -/
def ofFile? (extension : Text) (file : FoundFile) : Option TestCase := do
  let name ← Utf8.decode? file.name.bytes
  if isCaseFile name extension then
    let id ← Text.stripSuffix? (sourceSuffix extension) (relative file)
    let stem ← Text.stripSuffix? (sourceSuffix extension) name
    if id = [] ∨ stem = [] then
      none
    else
      some {
        id := id
        fileName := relative file
        source := file.directory.join file.name.bytes
        fixture :=
          file.directory.trimmed.join (Utf8.encode (stem ++ fixtureSuffix extension)) }
  else
    none

/-- The name of the fixture relative to the test root, with the extension read off the file name. -/
def fixtureName (case : TestCase) : Text :=
  case.id ++ '.' :: (fixtureInfix ++ '.' :: (Text.afterLast? '.' case.fileName).getD [])

end TestCase

end GoldenFiles
