import GoldenFiles.Proofs.FileSystem.Walking
import GoldenFiles.TestCase
import Mathlib.Tactic.Tauto

/-!
# Sources and fixtures

The case of a file has the file as its source and, beside it, a fixture whose name differs from that
of the source in the mark before the extension. No fixture is taken for a source, and different
sources have fixtures of different names.

## Main definitions

* `TestCase.fixtureText` — the name of a fixture
* `TestCase.Stems` — the case of a file, with the stem of its name

## Main results

* `TestCase.exists_of_ofFile?`, `TestCase.exists_stems` — what makes a file the source of a case
* `TestCase.isCaseFile_fixtureText` — no fixture is taken for a source
* `TestCase.ofFile?_eq_none_of_fixture` — no case has a fixture as its source
* `TestCase.Stems.locate_source`, `TestCase.Stems.locate_fixture` — where the files of a case are
-/

namespace GoldenFiles

theorem Text.stripSuffix?_eq_some_iff {suffix text stem : Text} :
    Text.stripSuffix? suffix text = some stem ↔ text = stem ++ suffix := by
  unfold Text.stripSuffix?
  constructor
  · intro h
    split at h
    · next hsuffix =>
      obtain ⟨front, rfl⟩ := List.isSuffixOf_iff_suffix.mp hsuffix
      cases h
      simp
    · cases h
  · rintro rfl
    rw [if_pos (List.isSuffixOf_iff_suffix.mpr (List.suffix_append stem suffix))]
    simp

namespace TestCase

variable {extension stem name : Text} {file : FoundFile} {case : TestCase} {fs : FileSystem}
  {root : Path} {visit : Visit} {place : Place}

/-! ### Names -/

theorem sourceSuffix_eq (extension : Text) : sourceSuffix extension = '.' :: extension := rfl

theorem fixtureSuffix_eq (extension : Text) :
    fixtureSuffix extension = ".fixture.".toList ++ extension := rfl

/-- The name of the fixture of a source with a given stem. -/
def fixtureText (stem extension : Text) : Text := stem ++ fixtureSuffix extension

theorem fixtureText_eq (stem extension : Text) :
    fixtureText stem extension = stem ++ ".fixture.".toList ++ extension := by
  rw [fixtureText, fixtureSuffix_eq, List.append_assoc]

/-- No fixture is taken for a source. -/
theorem isCaseFile_fixtureText (stem extension : Text) :
    isCaseFile (fixtureText stem extension) extension = false := by
  have hsuffix : (fixtureSuffix extension).isSuffixOf (fixtureText stem extension) = true :=
    List.isSuffixOf_iff_suffix.mpr (List.suffix_append _ _)
  simp [isCaseFile, hsuffix]

/-- The case of a file, with the stem of its name. -/
structure Stems (extension : Text) (file : FoundFile) (case : TestCase) (stem : Text) : Prop where
  name : Utf8.decode? file.name.bytes = some (stem ++ sourceSuffix extension)
  isCaseFile : isCaseFile (stem ++ sourceSuffix extension) extension = true
  source : case.source = file.directory.join file.name.bytes
  fixture : case.fixture = file.directory.trimmed.join (Utf8.encode (fixtureText stem extension))

/-- What makes a file the source of a case, and what the case is then. -/
theorem exists_of_ofFile? (h : ofFile? extension file = some case) :
    ∃ stem id, Utf8.decode? file.name.bytes = some (stem ++ sourceSuffix extension) ∧
      isCaseFile (stem ++ sourceSuffix extension) extension = true ∧
      relative file = id ++ sourceSuffix extension ∧
      case = ⟨id, relative file, file.directory.join file.name.bytes,
        file.directory.trimmed.join (Utf8.encode (fixtureText stem extension))⟩ := by
  unfold ofFile? at h
  obtain ⟨name, hname, hnamed⟩ := Option.bind_eq_some_iff.mp h
  by_cases hcase : isCaseFile name extension = true
  · rw [if_pos hcase] at hnamed
    obtain ⟨id, hid, hidentified⟩ := Option.bind_eq_some_iff.mp hnamed
    obtain ⟨stem, hstem, hbuilt⟩ := Option.bind_eq_some_iff.mp hidentified
    obtain rfl := Text.stripSuffix?_eq_some_iff.mp hstem
    split at hbuilt
    · cases hbuilt
    · cases hbuilt
      exact ⟨stem, id, hname, hcase, Text.stripSuffix?_eq_some_iff.mp hid, rfl⟩
  · rw [if_neg hcase] at hnamed
    cases hnamed

theorem exists_stems (h : ofFile? extension file = some case) :
    ∃ stem, case.Stems extension file stem := by
  obtain ⟨stem, id, hname, hcase, -, rfl⟩ := exists_of_ofFile? h
  exact ⟨stem, hname, hcase, rfl, rfl⟩

/-- The identity of a case is its file name without the ending of a source. -/
theorem fileName_of_ofFile? (h : ofFile? extension file = some case) :
    case.fileName = relative file ∧ relative file = case.id ++ sourceSuffix extension := by
  obtain ⟨stem, id, -, -, hid, rfl⟩ := exists_of_ofFile? h
  exact ⟨rfl, hid⟩

theorem ofFile?_of_isCaseFile_eq_false (hname : Utf8.decode? file.name.bytes = some name)
    (h : isCaseFile name extension = false) : ofFile? extension file = none := by
  simp [ofFile?, hname, h]

/-- No case has a fixture as its source. -/
theorem ofFile?_eq_none_of_fixture
    (h : file.name.bytes = Utf8.encode (fixtureText stem extension)) :
    ofFile? extension file = none := by
  have hname : Utf8.decode? file.name.bytes = some (fixtureText stem extension) := by
    rw [h, Utf8.decode?_encode]
  exact ofFile?_of_isCaseFile_eq_false hname (isCaseFile_fixtureText stem extension)

namespace Stems

/-- A fixture does not have the name of a source. -/
theorem fixture_ne_name {other : Text} (h : case.Stems extension file stem) :
    Utf8.encode (fixtureText other extension) ≠ file.name.bytes := by
  intro heq
  have hname := h.name
  rw [← heq, Utf8.decode?_encode] at hname
  have hcase := h.isCaseFile
  rw [← Option.some.inj hname, isCaseFile_fixtureText] at hcase
  cases hcase

/-- The names of a source and its fixture determine each other. -/
theorem name_inj {case' : TestCase} {file' : FoundFile} {stem' : Text}
    (h : case.Stems extension file stem) (h' : case'.Stems extension file' stem')
    (heq : Utf8.encode (fixtureText stem extension) = Utf8.encode (fixtureText stem' extension)) :
    file.name = file'.name := by
  have hstem : stem = stem' := List.append_cancel_right (Utf8.encode_injective heq)
  ext1
  exact Utf8.decode?_inj h.name (hstem ▸ h'.name)

/-- A byte below 128 that is neither in the mark nor a dot is in the name of a fixture only if it is
in that of the source. -/
theorem not_mem_fixtureText {b : UInt8} (h : case.Stems extension file stem) (hb : b.toNat < 0x80)
    (hmark : Char.ofNat b.toNat ∉ fixtureInfix) (hdot : Char.ofNat b.toNat ≠ '.')
    (hname : b ∉ file.name.bytes) : b ∉ Utf8.encode (fixtureText stem extension) := by
  rw [← Utf8.encode_of_decode? h.name, Utf8.mem_encode_iff hb] at hname
  rw [Utf8.mem_encode_iff hb]
  simp only [fixtureText, fixtureSuffix, sourceSuffix, List.mem_append, List.mem_cons] at hname ⊢
  tauto

theorem slash_not_mem (h : case.Stems extension file stem) :
    slash ∉ Utf8.encode (fixtureText stem extension) :=
  h.not_mem_fixtureText (by decide) (by decide) (by decide) file.name.isName.2.2.2.1

/-- There is a letter in the name of a fixture: its mark begins with one. -/
theorem mark_mem (stem extension : Text) :
    (102 : UInt8) ∈ Utf8.encode (fixtureText stem extension) := by
  rw [Utf8.mem_encode_iff (by decide)]
  refine List.mem_append_right stem (List.mem_cons_of_mem _ (List.mem_append_left _ ?_))
  decide

theorem isIdle_fixtureText (stem extension : Text) :
    Path.isIdle (Utf8.encode (fixtureText stem extension)) = false := by
  have hmark := mark_mem stem extension
  apply Bool.eq_false_iff.mpr
  intro hidle
  have hstay : Utf8.encode (fixtureText stem extension) = [] ∨
      Utf8.encode (fixtureText stem extension) = [dot] := by
    simpa [Path.isIdle] using hidle
  rcases hstay with h | h <;> rw [h] at hmark <;> revert hmark <;> decide

/-- The name of a fixture asks for an entry, if it is not too long for one. -/
theorem ofSegment_fixtureText (stem extension : Text) :
    (∃ name : Name, name.bytes = Utf8.encode (fixtureText stem extension) ∧
        Step.ofSegment (Utf8.encode (fixtureText stem extension)) = .enter name) ∨
      Step.ofSegment (Utf8.encode (fixtureText stem extension)) = .tooLong := by
  have hstay : ¬ (Utf8.encode (fixtureText stem extension) = [] ∨
      Utf8.encode (fixtureText stem extension) = [dot]) := by
    simpa [Path.isIdle] using isIdle_fixtureText stem extension
  have hup : Utf8.encode (fixtureText stem extension) ≠ [dot, dot] := by
    intro h
    have hmark := mark_mem stem extension
    rw [h] at hmark
    revert hmark
    decide
  rw [Step.ofSegment, if_neg hstay, if_neg hup]
  by_cases hname : IsName (Utf8.encode (fixtureText stem extension))
  · exact .inl ⟨⟨_, hname⟩, rfl, by rw [dif_pos hname]⟩
  · exact .inr (by rw [dif_neg hname])

end Stems

/-! ### Places -/

/-- The source of a case is where its name leads. -/
theorem Stems.locate_source {name : Name} (h : case.Stems extension (visit.file name) stem)
    (hvisit : visit.Comes fs root) (hplace : fs.locate true case.source = .ok place) :
    fs.resolve true visit.links visit.location [.enter name] = .ok place := by
  have hsource : case.source = visit.pathOf name := h.source
  rw [hsource] at hplace
  rw [← hvisit.resolve_pathOf]
  exact FileSystem.resolve_of_locate hplace

/-- The fixture of a case is where its name leads from the directory of the source. -/
theorem Stems.locate_fixture {name : Name} (h : case.Stems extension (visit.file name) stem)
    (hvisit : visit.Comes fs root) (hplace : fs.locate true case.fixture = .ok place) :
    ∃ fixture : Name, fixture.bytes = Utf8.encode (fixtureText stem extension) ∧
      fs.resolve true visit.links visit.location [.enter fixture] = .ok place := by
  have hfixture : case.fixture =
      visit.path.trimmed.join (Utf8.encode (fixtureText stem extension)) := h.fixture
  rw [hfixture] at hplace
  have hresolve := FileSystem.resolve_of_locate hplace
  rw [hvisit.reaches.trimmed.resolve_join h.slash_not_mem] at hresolve
  rcases ofSegment_fixtureText stem extension with ⟨fixture, hbytes, hstep⟩ | hstep
  · exact ⟨fixture, hbytes, hstep ▸ hresolve⟩
  · rw [hstep, FileSystem.resolve_tooLong hvisit.isDirectory] at hresolve
    cases hresolve

end TestCase

end GoldenFiles
