import GoldenFiles.Path
import Mathlib.Tactic.Tauto

/-!
# Steps of paths

A path extended by a name asks for one step more, and a path without its idle end for the same steps
but for those that stay. Segments and paths stand for each other.

## Main definitions

* `Name.ofText` — the name that a text spells
* `Path.parts`, `Path.Same` — the components of a path, and paths with the same components
* `Path.below` — a path extended by names

## Main results

* `segments_append_slash`, `intercalate_segments`, `segments_intercalate` — taking apart at slashes
* `Path.steps_join`, `Path.isAbsolute_join` — a path extended by a name
* `Path.steps_trimmed`, `Path.isAbsolute_trimmed` — a path without idle segments at its end
* `Path.parts_join`, `Path.parts_below`, `Path.same_trimmed_join` — the components of these
* `Path.mem_bytes_iff` — the bytes of a path are in its components
-/

namespace GoldenFiles

variable {bytes entry : Bytes} {row : List Bytes} {path : Path}

/-- The name that a text spells, or a dash if it spells none. -/
def Name.ofText (text : Text) : Name :=
  if h : IsName (Utf8.encode text) then
    ⟨Utf8.encode text, h⟩
  else
    ⟨Utf8.encode "-".toList, by decide⟩

/-! ### Segments -/

theorem segments_ne_nil (bytes : Bytes) : segments bytes ≠ [] := by
  cases bytes with
  | nil => simp [segments]
  | cons b rest =>
    unfold segments
    split
    · simp
    · split <;> simp

@[simp] theorem segments_nil : segments [] = [[]] := rfl

@[simp] theorem segments_slash (rest : Bytes) : segments (slash :: rest) = [] :: segments rest := by
  simp [segments]

theorem segments_append_slash (a b : Bytes) :
    segments (a ++ slash :: b) = segments a ++ segments b := by
  induction a with
  | nil => simp
  | cons c rest ih =>
    by_cases hc : c = slash
    · subst hc
      simp [ih]
    · simp only [List.cons_append, segments, if_neg hc, ih]
      cases h : segments rest with
      | nil => exact absurd h (segments_ne_nil rest)
      | cons segment others => rfl

theorem segments_of_not_mem (h : slash ∉ bytes) : segments bytes = [bytes] := by
  induction bytes with
  | nil => rfl
  | cons b rest ih =>
    obtain ⟨hb, hrest⟩ := not_or.mp (mt List.mem_cons.mpr h)
    rw [segments, if_neg (Ne.symm hb), ih hrest]

theorem not_mem_of_mem_segments {segment : Bytes} (h : segment ∈ segments bytes) :
    slash ∉ segment := by
  induction bytes generalizing segment with
  | nil => simp_all
  | cons b rest ih =>
    unfold segments at h
    split at h
    · rcases List.mem_cons.mp h with rfl | h
      · exact List.not_mem_nil
      · exact ih h
    · next hb =>
      cases hrest : segments rest with
      | nil => exact absurd hrest (segments_ne_nil rest)
      | cons first others =>
        rw [hrest] at h ih
        rcases List.mem_cons.mp h with rfl | h
        · have hfirst := ih (List.mem_cons_self ..)
          simp [hfirst, Ne.symm hb]
        · exact ih (List.mem_cons_of_mem _ h)

theorem intercalate_cons {segment : Bytes} (h : row ≠ []) :
    [slash].intercalate (segment :: row) = segment ++ slash :: [slash].intercalate row := by
  rw [List.intercalate_cons_of_ne_nil h, List.append_assoc, List.singleton_append]

/-- What is not what parts are joined with is in one of the parts. -/
theorem mem_intercalate_iff {α : Type} {mark c : α} (hc : c ≠ mark) {parts : List (List α)} :
    c ∈ [mark].intercalate parts ↔ ∃ part ∈ parts, c ∈ part := by
  induction parts with
  | nil => simp [List.intercalate]
  | cons part rest ih =>
    by_cases hrest : rest = []
    · simp [hrest, List.intercalate]
    · rw [List.intercalate_cons_of_ne_nil hrest]
      simp [ih, hc]

/-- Segments joined by slashes give the path back. -/
theorem intercalate_segments (bytes : Bytes) : [slash].intercalate (segments bytes) = bytes := by
  induction bytes with
  | nil => rfl
  | cons b rest ih =>
    unfold segments
    split
    · next hb => rw [intercalate_cons (segments_ne_nil rest), ih, hb, List.nil_append]
    · cases hrest : segments rest with
      | nil => exact absurd hrest (segments_ne_nil rest)
      | cons first others =>
        rw [hrest] at ih
        rw [← ih]
        cases others <;> simp [List.intercalate]

/-- A row of segments is taken apart into its segments. -/
theorem segments_intercalate (hne : row ≠ []) (h : ∀ segment ∈ row, slash ∉ segment) :
    segments ([slash].intercalate row) = row := by
  induction row with
  | nil => exact absurd rfl hne
  | cons first others ih =>
    obtain ⟨hfirst, hothers⟩ := List.forall_mem_cons.mp h
    by_cases hnil : others = []
    · subst hnil
      simpa [List.intercalate] using segments_of_not_mem hfirst
    · rw [intercalate_cons hnil, segments_append_slash, segments_of_not_mem hfirst, ih hnil hothers]
      rfl

/-- The first segments of a path, joined by slashes, are taken apart into themselves. -/
theorem segments_intercalate_of_append {first : Bytes} {more others : List Bytes}
    (h : segments bytes = first :: (more ++ others)) :
    segments ([slash].intercalate (first :: more)) = first :: more := by
  refine segments_intercalate (List.cons_ne_nil _ _) ?_
  intro segment hmem
  have hall : segment ∈ segments bytes := by
    rw [h, ← List.cons_append]
    exact List.mem_append_left others hmem
  exact not_mem_of_mem_segments hall

namespace Path

/-! ### Paths extended by a name -/

theorem exists_of_endsInSlash (h : path.endsInSlash = true) :
    ∃ front, path.bytes = front ++ [slash] := by
  have hlast : path.bytes.getLast? = some slash := by simpa [endsInSlash] using h
  exact List.getLast?_eq_some_iff.mp hlast

/-- A path extended by a name asks for the step of the name behind its own steps, of which the last
falls away where it is idle. -/
theorem steps_join (path : Path) (h : slash ∉ entry) :
    ∃ front, (path.steps = front ∨ path.steps = front ++ [.stay]) ∧
      (path.join entry).steps = front ++ [.ofSegment entry] := by
  unfold join
  split
  · next hshort =>
    by_cases hnil : path.bytes = []
    · refine ⟨[], .inr ?_, ?_⟩
      · simp [steps, hnil, Step.ofSegment]
      · simp [steps, hnil, segments_of_not_mem h]
    · obtain ⟨front, hfront⟩ := exists_of_endsInSlash (hshort.resolve_left hnil)
      refine ⟨(segments front).map .ofSegment, .inr ?_, ?_⟩
      · simp [steps, hfront, segments_append_slash, Step.ofSegment]
      · simp [steps, hfront, segments_append_slash, segments_of_not_mem h]
  · refine ⟨path.steps, .inl rfl, ?_⟩
    simp [steps, segments_append_slash, segments_of_not_mem h]

theorem isAbsolute_join (path : Path) (h : slash ∉ entry) :
    (path.join entry).isAbsolute = path.isAbsolute := by
  unfold join isAbsolute
  cases hbytes : path.bytes with
  | nil =>
    cases entry with
    | nil => simp
    | cons b rest =>
      have hb : b ≠ slash := fun hb => h (hb ▸ List.mem_cons_self ..)
      simp [hb]
  | cons b rest => split <;> simp

/-! ### Paths without an idle end -/

theorem stay_of_isIdle {segment : Bytes} (h : isIdle segment = true) :
    Step.ofSegment segment = .stay := by
  have hor : segment = [] ∨ segment = [dot] := by simpa [isIdle] using h
  rw [Step.ofSegment, if_pos hor]

/-- What has been taken from the end of a row is idle. -/
theorem exists_idle (row : List Bytes) :
    ∃ idle, (∀ segment ∈ idle, isIdle segment = true) ∧ row = withoutIdleEnd row ++ idle := by
  refine ⟨(row.reverse.takeWhile isIdle).reverse, ?_, ?_⟩
  · intro segment hmem
    exact List.all_eq_true.mp List.all_takeWhile segment (List.mem_reverse.mp hmem)
  · rw [withoutIdleEnd, ← List.reverse_append, List.takeWhile_append_dropWhile,
      List.reverse_reverse]

/-- The segments that are kept: the first in any case, and all but the idle ones at the end. -/
def kept (first : Bytes) (rest : List Bytes) : List Bytes :=
  if isIdle first then first :: withoutIdleEnd rest else withoutIdleEnd (first :: rest)

theorem kept_spec (first : Bytes) (rest : List Bytes) :
    ∃ more idle, kept first rest = first :: more ∧ (∀ segment ∈ idle, isIdle segment = true) ∧
      rest = more ++ idle := by
  unfold kept
  split
  · obtain ⟨idle, hidle, hrest⟩ := exists_idle rest
    exact ⟨_, idle, rfl, hidle, hrest⟩
  · next hfirst =>
    obtain ⟨idle, hidle, hrow⟩ := exists_idle (first :: rest)
    cases hkept : withoutIdleEnd (first :: rest) with
    | nil =>
      rw [hkept, List.nil_append] at hrow
      exact absurd (hidle first (hrow ▸ List.mem_cons_self ..)) hfirst
    | cons segment more =>
      rw [hkept, List.cons_append] at hrow
      obtain ⟨rfl, hrest⟩ := List.cons.inj hrow
      exact ⟨more, idle, rfl, hidle, hrest⟩

/-- The segments of a path and what is left of them. -/
theorem exists_trimmed (path : Path) :
    ∃ first more idle, segments path.bytes = first :: (more ++ idle) ∧
      (∀ segment ∈ idle, isIdle segment = true) ∧
      ((first = [] ∧ more = [] ∧ idle ≠ [] ∧ path.trimmed = ⟨[slash]⟩) ∨
        (¬ (first = [] ∧ more = [] ∧ idle ≠ []) ∧
          path.trimmed = ⟨[slash].intercalate (first :: more)⟩)) := by
  cases hsegments : segments path.bytes with
  | nil => exact absurd hsegments (segments_ne_nil _)
  | cons first rest =>
    obtain ⟨more, idle, hkept, hidle, rfl⟩ := kept_spec first rest
    have htrimmed : path.trimmed = if kept first (more ++ idle) = [[]] ∧ more ++ idle ≠ []
        then ⟨[slash]⟩ else ⟨[slash].intercalate (kept first (more ++ idle))⟩ := by
      unfold trimmed
      rw [hsegments]
      rfl
    rw [hkept] at htrimmed
    refine ⟨first, more, idle, rfl, hidle, ?_⟩
    by_cases hroot : first = [] ∧ more = [] ∧ idle ≠ []
    · obtain ⟨rfl, rfl, hne⟩ := hroot
      exact .inl ⟨rfl, rfl, hne, by simpa [hne] using htrimmed⟩
    · refine .inr ⟨hroot, ?_⟩
      rw [htrimmed, if_neg]
      rintro ⟨hfirst, hne⟩
      obtain ⟨rfl, rfl⟩ := List.cons.inj hfirst
      exact hroot ⟨rfl, rfl, hne⟩

/-- A path without its idle end lacks segments that stay, or it is the root and was nothing but such
segments from there. -/
theorem steps_trimmed (path : Path) :
    (∃ idle, (∀ step ∈ idle, step = .stay) ∧ path.steps = path.trimmed.steps ++ idle) ∨
      (path.isAbsolute = true ∧ path.trimmed = ⟨[slash]⟩ ∧ ∀ step ∈ path.steps, step = .stay) := by
  obtain ⟨first, more, idle, hsegments, hidle, ⟨rfl, rfl, hne, htrimmed⟩ | ⟨-, htrimmed⟩⟩ :=
    path.exists_trimmed
  · right
    refine ⟨?_, htrimmed, ?_⟩
    · rw [isAbsolute, ← intercalate_segments path.bytes, hsegments, intercalate_cons (by simpa)]
      simp
    · intro step hmem
      rw [steps, hsegments] at hmem
      obtain ⟨segment, hsegment, rfl⟩ := List.mem_map.mp hmem
      rcases List.mem_cons.mp hsegment with rfl | hsegment
      · rfl
      · exact stay_of_isIdle (hidle segment hsegment)
  · left
    refine ⟨idle.map .ofSegment, ?_, ?_⟩
    · intro step hmem
      obtain ⟨segment, hsegment, rfl⟩ := List.mem_map.mp hmem
      exact stay_of_isIdle (hidle segment hsegment)
    · rw [steps, steps, htrimmed, segments_intercalate_of_append hsegments, hsegments,
        ← List.cons_append, List.map_append]

theorem head?_intercalate (first : Bytes) (others : List Bytes) :
    ([slash].intercalate (first :: others)).head? =
      if first = [] ∧ others ≠ [] then some slash else first.head? := by
  by_cases hnil : others = []
  · subst hnil
    simp [List.intercalate]
  · rw [intercalate_cons hnil]
    cases first <;> simp [hnil]

/-- Where a path starts does not depend on its idle end. -/
theorem isAbsolute_trimmed (path : Path) : path.trimmed.isAbsolute = path.isAbsolute := by
  obtain ⟨first, more, idle, hsegments, -, hcases⟩ := path.exists_trimmed
  have hpath : path.bytes.head? =
      if first = [] ∧ more ++ idle ≠ [] then some slash else first.head? := by
    rw [← head?_intercalate, ← hsegments, intercalate_segments]
  unfold isAbsolute
  rw [hpath]
  rcases hcases with ⟨rfl, rfl, hne, htrimmed⟩ | ⟨hroot, htrimmed⟩
  · simp [htrimmed, hne]
  · rw [htrimmed, head?_intercalate]
    -- Only an empty first segment with others behind it makes a path absolute.
    by_cases hfirst : first = []
    · by_cases hmore : more = []
      · have hidle : idle = [] := by tauto
        simp [hfirst, hmore, hidle]
      · simp [hfirst, hmore]
    · simp [hfirst]

/-! ### Paths with the same components -/

/-- The segments that distinguish a path: the first one, and those behind it that are not idle. -/
def parts (path : Path) : List Bytes :=
  match segments path.bytes with
  | [] => []
  | first :: rest => first :: rest.filter (!isIdle ·)

/-- Paths that are equal component by component. -/
structure Same (path other : Path) : Prop where
  isAbsolute : path.isAbsolute = other.isAbsolute
  parts : path.parts = other.parts

/-- A path that is extended by names, one after the other. -/
def below (path : Path) (names : List Name) : Path :=
  names.foldl (fun path name => path.join name.bytes) path

theorem parts_of_segments {first : Bytes} {rest : List Bytes}
    (h : segments path.bytes = first :: rest) : path.parts = first :: rest.filter (!isIdle ·) := by
  simp [parts, h]

/-- A byte that is neither slash nor dot is in one of the components. -/
theorem mem_bytes_iff {b : UInt8} (hslash : b ≠ slash) (hdot : b ≠ dot) :
    b ∈ path.bytes ↔ ∃ part ∈ path.parts, b ∈ part := by
  obtain ⟨first, rest, hsegments⟩ := List.exists_cons_of_ne_nil (segments_ne_nil path.bytes)
  have hidle {segment : Bytes} (hmem : b ∈ segment) : isIdle segment = false := by
    have hnil : segment ≠ [] := List.ne_nil_of_mem hmem
    have hone : segment ≠ [dot] := fun heq => hdot (List.mem_singleton.mp (heq ▸ hmem))
    simp [isIdle, hnil, hone]
  have hall : b ∈ path.bytes ↔ ∃ segment ∈ first :: rest, b ∈ segment := by
    rw [← mem_intercalate_iff hslash, ← hsegments, intercalate_segments]
  rw [hall, parts_of_segments hsegments]
  simp only [List.mem_cons, exists_eq_or_imp, List.mem_filter, Bool.not_eq_eq_eq_not, Bool.not_true]
  refine or_congr_right (exists_congr fun segment => ?_)
  exact ⟨fun h => ⟨⟨h.1, hidle h.2⟩, h.2⟩, fun h => ⟨h.1.1, h.2⟩⟩

theorem parts_join (hne : path.bytes ≠ []) (hslash : slash ∉ entry) (hidle : isIdle entry = false) :
    (path.join entry).parts = path.parts ++ [entry] := by
  have hextended {front : Bytes} :
      (Path.mk (front ++ slash :: entry)).parts = (Path.mk front).parts ++ [entry] := by
    obtain ⟨first, rest, hfront⟩ := List.exists_cons_of_ne_nil (segments_ne_nil front)
    have hsegments : segments (front ++ slash :: entry) = first :: (rest ++ [entry]) := by
      rw [segments_append_slash, hfront, segments_of_not_mem hslash, List.cons_append]
    rw [parts_of_segments hsegments, parts_of_segments hfront]
    simp [hidle]
  unfold join
  by_cases hend : path.endsInSlash = true
  · rw [if_pos (.inr hend)]
    obtain ⟨front, hfront⟩ := exists_of_endsInSlash hend
    obtain ⟨first, rest, hsegments⟩ := List.exists_cons_of_ne_nil (segments_ne_nil front)
    have hall : segments path.bytes = first :: (rest ++ [[]]) := by
      rw [hfront, segments_append_slash, hsegments, segments_nil, List.cons_append]
    have hparts : path.parts = (Path.mk front).parts := by
      rw [parts_of_segments hall, parts_of_segments hsegments]
      simp [isIdle]
    rw [hfront, List.append_assoc, List.singleton_append, hextended, hparts]
  · rw [if_neg (by simp [hne, hend])]
    exact hextended

theorem isIdle_name (name : Name) : isIdle name.bytes = false := by
  obtain ⟨hne, hdot, -⟩ := name.isName
  simp [isIdle, hne, hdot]

theorem join_bytes_ne_nil (path : Path) (hne : entry ≠ []) : (path.join entry).bytes ≠ [] := by
  unfold join
  split <;> simp [hne]

theorem below_bytes_ne_nil (hne : path.bytes ≠ []) (names : List Name) :
    (path.below names).bytes ≠ [] := by
  induction names generalizing path with
  | nil => exact hne
  | cons name rest ih => exact ih (path.join_bytes_ne_nil name.isName.1)

/-- The components of a path extended by names are its own and the names. -/
theorem parts_below (hne : path.bytes ≠ []) (names : List Name) :
    (path.below names).parts = path.parts ++ names.map Name.bytes := by
  induction names generalizing path with
  | nil => simp [below]
  | cons name rest ih =>
    rw [below, List.foldl_cons, ← below, ih (path.join_bytes_ne_nil name.isName.1),
      parts_join hne name.isName.2.2.2.1 (isIdle_name name), List.append_assoc]
    rfl

theorem parts_trimmed (path : Path) : path.trimmed.parts = path.parts := by
  obtain ⟨first, more, idle, hsegments, hidle, hcases⟩ := path.exists_trimmed
  have hnone : idle.filter (!isIdle ·) = [] := by
    rw [List.filter_eq_nil_iff]
    intro segment hmem
    simp [hidle segment hmem]
  rw [parts_of_segments hsegments, List.filter_append, hnone, List.append_nil]
  rcases hcases with ⟨rfl, rfl, -, htrimmed⟩ | ⟨-, htrimmed⟩
  · rw [htrimmed]
    rfl
  · exact parts_of_segments (htrimmed ▸ segments_intercalate_of_append hsegments)

theorem trimmed_bytes_ne_nil (h : path.bytes ≠ []) : path.trimmed.bytes ≠ [] := by
  obtain ⟨first, more, idle, hsegments, -, ⟨-, -, -, htrimmed⟩ | ⟨hroot, htrimmed⟩⟩ :=
    path.exists_trimmed
  · simp [htrimmed]
  · intro hnil
    have hkept := segments_intercalate_of_append hsegments
    have hempty : [slash].intercalate (first :: more) = [] :=
      (congrArg Path.bytes htrimmed).symm.trans hnil
    rw [hempty, segments_nil] at hkept
    obtain ⟨rfl, rfl⟩ := List.cons.inj hkept
    have hidle : idle = [] := by tauto
    rw [hidle, List.append_nil] at hsegments
    exact h (by rw [← intercalate_segments path.bytes, hsegments]; rfl)

/-- A path and the same without its idle end are equal once they are extended by a name. -/
theorem same_trimmed_join (path : Path) (hslash : slash ∉ entry) (hidle : isIdle entry = false) :
    (path.trimmed.join entry).Same (path.join entry) where
  isAbsolute := by rw [isAbsolute_join _ hslash, isAbsolute_join _ hslash, isAbsolute_trimmed]
  parts := by
    by_cases hnil : path.bytes = []
    · obtain ⟨bytes⟩ := path
      cases hnil
      rfl
    · rw [parts_join (trimmed_bytes_ne_nil hnil) hslash hidle, parts_join hnil hslash hidle,
        parts_trimmed]

end Path

end GoldenFiles
