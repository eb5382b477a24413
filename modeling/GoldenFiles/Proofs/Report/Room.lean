import GoldenFiles.Proofs.Run.Interruption

/-!
# What fits into a sink

A sink takes a text if it has room for all its bytes, so that a text fits if a longer one does. The
report on some of the cases of a run is no longer than that on all of them: blocks are missing from
it, and with fewer failures the verdict at its end gets no longer.

## Main definitions

* `StyledText.size` — the number of bytes that are written for a text

## Main results

* `Sink.exists_write_of_size_le` — a text fits if a longer one does
* `Sink.exists_of_write_append` — a text that has been written begins with what has been written
* `Report.size_banner_le` — the size of a verdict
-/

namespace GoldenFiles

variable {coloured : Bool} {text more : StyledText} {sink left : Sink}

/-- The number of bytes that are written for a text. -/
def StyledText.size (coloured : Bool) (text : StyledText) : Nat :=
  (Utf8.encode (text.render coloured)).length

namespace StyledText

@[simp] theorem size_append (coloured : Bool) (text more : StyledText) :
    size coloured (text ++ more) = size coloured text + size coloured more := by
  simp [size, render, Utf8.encode]

/-- Fewer parts are no longer. -/
theorem size_flatMap_le {α : Type} {few all : List α} (h : few.Sublist all)
    (part : α → StyledText) :
    size coloured (few.flatMap part) ≤ size coloured (all.flatMap part) := by
  induction h with
  | slnil => exact Nat.le_refl _
  | cons first h ih =>
    rw [List.flatMap_cons, size_append]
    omega
  | cons_cons first h ih =>
    rw [List.flatMap_cons, List.flatMap_cons, size_append, size_append]
    omega

end StyledText

/-! ### Room -/

namespace Sink

theorem exists_write_iff : (∃ left, sink.write text = (left, none)) ↔
    ∀ room, sink.room = some room → text.size sink.coloured ≤ room := by
  obtain ⟨coloured, room, written⟩ := sink
  cases room with
  | none => simp [write, writeBytes]
  | some room => simp [write, writeBytes, StyledText.size]

/-- A text fits if a longer one does. -/
theorem exists_write_of_size_le (h : sink.write text = (left, none))
    (hsize : more.size sink.coloured ≤ text.size sink.coloured) :
    ∃ other, sink.write more = (other, none) :=
  exists_write_iff.mpr fun room hroom =>
    Nat.le_trans hsize (exists_write_iff.mp ⟨left, h⟩ room hroom)

/-- Of a text that has been written, its beginning has been written first. -/
theorem exists_of_write_append (h : sink.write (text ++ more) = (left, none)) :
    ∃ between, sink.write text = (between, none) ∧ between.write more = (left, none) := by
  have hsize : text.size sink.coloured ≤ (text ++ more).size sink.coloured := by
    rw [StyledText.size_append]
    exact Nat.le_add_right _ _
  obtain ⟨between, hbetween⟩ := exists_write_of_size_le h hsize
  exact ⟨between, hbetween, (write_write hbetween).trans h⟩

end Sink

/-! ### Verdicts -/

theorem Text.length_encode_ofNat (n : Nat) :
    (Utf8.encode (Text.ofNat n)).length = (Nat.toDigits 10 n).length := by
  have hdigits : ∀ c ∈ Nat.toDigits 10 n, (Utf8.encodeChar c).length = 1 := by
    intro c hc
    have hdigit := Nat.isDigit_of_mem_toDigits (by decide) (by decide) hc
    have hlt : c.toNat < 0x80 := by
      simp only [Char.isDigit, Bool.and_eq_true, decide_eq_true_eq,
        UInt32.le_iff_toNat_le] at hdigit
      have hnine : c.val.toNat ≤ 57 := hdigit.2
      exact Nat.lt_of_le_of_lt hnine (by decide)
    simp [Utf8.encodeChar, hlt]
  rw [Utf8.encode, Text.ofNat, List.length_flatMap, List.map_congr_left hdigits, List.map_const',
    List.sum_replicate_nat, Nat.mul_one]

namespace Report

theorem size_banner_of_failed {summary : Summary} (h : summary.failed ≠ 0) :
    (banner summary).size coloured =
      StyledText.size coloured [⟨some .red, "ERROR: ".toList⟩] +
        (Nat.toDigits 10 summary.failed).length + 22 := by
  have hbanner : banner summary = [⟨some .red, "ERROR: ".toList⟩] ++
      [⟨none, Text.ofNat summary.failed ++ " fixture tests failed\n".toList⟩] := by
    simp [banner, Summary.isSuccess, h]
  have htail : StyledText.size coloured
      [⟨none, Text.ofNat summary.failed ++ " fixture tests failed\n".toList⟩] =
        (Utf8.encode (Text.ofNat summary.failed)).length + 22 := by
    simp [StyledText.size, StyledText.render, Piece.render, Utf8.encode, Utf8.encodeChar]
  rw [hbanner, StyledText.size_append, htail, Text.length_encode_ofNat, Nat.add_assoc]

/-- With fewer failures a verdict is no longer. -/
theorem size_banner_le {part all : Summary} (h : part.failed ≤ all.failed) :
    (banner part).size coloured ≤ (banner all).size coloured := by
  by_cases hall : all.failed = 0
  · have hpart : part.failed = 0 := by omega
    simp [banner, Summary.isSuccess, hall, hpart]
  · rw [size_banner_of_failed hall]
    by_cases hpart : part.failed = 0
    · have hbanner : banner part = [⟨none, "[ ".toList⟩, ⟨some .white, "SUCCESS".toList⟩,
          ⟨none, " ]\n".toList⟩] := by
        simp [banner, Summary.isSuccess, hpart]
      rw [hbanner]
      have hconst : ∀ coloured, StyledText.size coloured [⟨none, "[ ".toList⟩,
          ⟨some .white, "SUCCESS".toList⟩, ⟨none, " ]\n".toList⟩] ≤
            StyledText.size coloured [⟨some .red, "ERROR: ".toList⟩] + 22 := by
        decide
      exact Nat.le_trans (hconst coloured) (by omega)
    · rw [size_banner_of_failed hpart]
      have hlt : all.failed < 10 ^ (Nat.toDigits 10 all.failed).length :=
        (Nat.length_toDigits_le_iff (by decide) Nat.length_toDigits_pos).mp (Nat.le_refl _)
      have hdigits := (Nat.length_toDigits_le_iff (by decide) Nat.length_toDigits_pos).mpr
        (Nat.lt_of_le_of_lt h hlt)
      omega

end Report

end GoldenFiles
