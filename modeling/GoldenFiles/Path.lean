import GoldenFiles.Text.Utf8

/-!
# Paths

A path is a row of bytes that slashes divide into segments. Empty segments and single dots stay
where they are, two dots go up, and every other segment names an entry of a directory. A path that
begins with a slash starts at the root of the file system, any other path at the working directory.

## Main definitions

* `Name` — the name of a directory entry
* `Path` — a path as written
* `Path.steps` — what its segments ask for, one after the other
* `Path.join`, `Path.trimmed` — a path extended by a name, and without idle segments at its end
* `Path.label` — the last name, or all of it
-/

namespace GoldenFiles

/-! ### Names -/

/-- The byte of a slash. -/
def slash : UInt8 := 47

/-- The byte of a dot. -/
def dot : UInt8 := 46

/-- Names of directory entries: any bytes but slash and zero, at least one and at most 255 of them,
and neither of the two segments that name no entry. -/
def IsName (bytes : Bytes) : Prop :=
  bytes ≠ [] ∧ bytes ≠ [dot] ∧ bytes ≠ [dot, dot] ∧ slash ∉ bytes ∧ 0 ∉ bytes ∧ bytes.length ≤ 255

instance (bytes : Bytes) : Decidable (IsName bytes) :=
  inferInstanceAs (Decidable (_ ∧ _))

/-- The name of a directory entry. -/
structure Name where
  bytes : Bytes
  isName : IsName bytes
  deriving DecidableEq

namespace Name

/-- Names in the order of their bytes. -/
def le (a b : Name) : Bool := decide (a.bytes ≤ b.bytes)

/-- A name as it is shown. -/
def text (name : Name) : Text := Utf8.lenient name.bytes

end Name

/-! ### Paths -/

/-- A path as it is written. -/
structure Path where
  bytes : Bytes
  deriving DecidableEq, Repr

/-- What a segment of a path asks for. -/
inductive Step
  /-- To stay, in a directory. -/
  | stay
  /-- To go to the directory above. -/
  | up
  /-- To go to an entry. -/
  | enter (name : Name)
  /-- To go to an entry under a name that is too long for any. -/
  | tooLong
  deriving DecidableEq

/-- What a segment asks for. -/
def Step.ofSegment (segment : Bytes) : Step :=
  if segment = [] ∨ segment = [dot] then .stay
  else if segment = [dot, dot] then .up
  else if h : IsName segment then .enter ⟨segment, h⟩
  else .tooLong

/-- The segments between slashes. There is always at least one. -/
def segments : Bytes → List Bytes
  | [] => [[]]
  | b :: rest =>
    if b = slash then
      [] :: segments rest
    else
      match segments rest with
      | [] => [[b]]
      | segment :: others => (b :: segment) :: others

namespace Path

/-- The path that a text spells. -/
def ofText (text : Text) : Path := ⟨Utf8.encode text⟩

/-- A path as it is shown. -/
def text (path : Path) : Text := Utf8.lenient path.bytes

/-- Whether the path starts at the root of the file system. -/
def isAbsolute (path : Path) : Bool := path.bytes.head? = some slash

/-- Whether the path ends in a slash. -/
def endsInSlash (path : Path) : Bool := path.bytes.getLast? = some slash

/-- What the segments ask for, one after the other. -/
def steps (path : Path) : List Step := (segments path.bytes).map .ofSegment

/-- The path of an entry of the directory at a path. -/
def join (path : Path) (entry : Bytes) : Path :=
  if path.bytes = [] ∨ path.endsInSlash then
    ⟨path.bytes ++ entry⟩
  else
    ⟨path.bytes ++ slash :: entry⟩

/-- Segments that go nowhere. -/
def isIdle (segment : Bytes) : Bool := segment = [] || segment = [dot]

/-- Segments without the idle ones at their end. -/
def withoutIdleEnd (row : List Bytes) : List Bytes := (row.reverse.dropWhile isIdle).reverse

/-- The path without idle segments at its end. What tells where the path starts is kept, which is a
slash or a single dot at its beginning. -/
def trimmed (path : Path) : Path :=
  match segments path.bytes with
  | [] => path
  | first :: rest =>
    let kept :=
      if isIdle first then first :: withoutIdleEnd rest else withoutIdleEnd (first :: rest)
    if kept = [[]] ∧ rest ≠ [] then ⟨[slash]⟩ else ⟨[slash].intercalate kept⟩

/-- The last name of a path, idle segments at its end aside. -/
def lastName? (path : Path) : Option Bytes :=
  match (withoutIdleEnd (segments path.bytes)).getLast? with
  | some segment => if segment = [dot, dot] then none else some segment
  | none => none

/-- The last name of a path as it is shown, or the whole path where it ends in none. -/
def label (path : Path) : Text :=
  match path.lastName? with
  | some name => Utf8.lenient name
  | none => path.text

end Path

end GoldenFiles
