import GoldenFiles.Proofs.FileSystem.Paths
import GoldenFiles.Proofs.Text.Utf8

/-!
# What writing changes

A file is written where there is a file or nothing. Nothing else changes: all that could be reached
is reached as before, and other files are read as before. What has been written is read back.

## Main definitions

* `FileSystem.Takes` — a file can be put at a location

## Main results

* `FileSystem.resolve_put_or`, `FileSystem.resolve_of_put` — all that could be reached is reached as
  before, and nothing else but what has been written
* `FileSystem.write_eq_ok_iff` — what writing does
* `FileSystem.exists_write_put_iff` — writing one file after another
* `FileSystem.fileText_put_self`, `FileSystem.fileText_put_of_ne`,
  `FileSystem.fileText_of_put_of_ne` — reading what has been written, and other files
* `FileSystem.write_of_fileText` — writing the same text again changes nothing
-/

namespace GoldenFiles

/-! ### Places for files -/

namespace FileSystem

variable {fs after : FileSystem} {follow : Bool} {links left : Nat} {location target x : Location}
  {name : Name} {steps : List Step} {path : Path} {content : Bytes} {text : Text}
  {place : Place}

/-- A file can be put at a location: there is one, or nothing. -/
def Takes (fs : FileSystem) (location : Location) : Prop :=
  fs.lookup location = none ∨ ∃ content, fs.lookup location = some (.file content)

theorem Takes.not_suffix (h : fs.Takes x) : ¬ x <:+ fs.workingDirectory := by
  refine not_suffix_of_lookup ?_
  rcases h with h | ⟨content, h⟩ <;> simp [h]

theorem lookup_put (hx : fs.Takes x) (location : Location) :
    (fs.put x (.file content)).lookup location =
      if location = x then some (.file content) else fs.lookup location := by
  by_cases h : location = x
  · rw [if_pos h, h, lookup_put_self hx.not_suffix]
  · rw [if_neg h, lookup_put_of_ne h]

theorem isDirectory_put (hx : fs.Takes x) (location : Location) :
    (fs.put x (.file content)).isDirectory location = fs.isDirectory location := by
  unfold isDirectory
  rw [lookup_put hx]
  split
  · next h =>
    subst h
    rcases hx with hx | ⟨old, hx⟩ <;> simp [hx]
  · rfl

theorem lookup_put_eq_link_iff (hx : fs.Takes x) :
    (fs.put x (.file content)).lookup location = some (.link path) ↔
      fs.lookup location = some (.link path) := by
  rw [lookup_put hx]
  split
  · next h =>
    subst h
    rcases hx with hx | ⟨old, hx⟩ <;> simp [hx]
  · rfl

/-! ### Paths that lead somewhere -/

/-- What was reached before a file is put is reached as before, unless it is the place of that file.
-/
theorem resolve_put_or (hx : fs.Takes x)
    (h : fs.resolve follow links location steps = .ok place) (content : Bytes) :
    (fs.put x (.file content)).resolve follow links location steps = .ok place ∨
      place = .vacant x ∧ ∃ left,
        (fs.put x (.file content)).resolve follow links location steps = .ok (.found x left) := by
  have hdirectory : ∀ location, (fs.put x (.file content)).isDirectory location =
      fs.isDirectory location := isDirectory_put hx
  fun_induction resolve fs follow links location steps with
  | case1 => exact .inl (by rw [resolve_nil, h])
  | case2 links location rest hdir ih =>
    rw [resolve_stay (by rwa [hdirectory])]
    exact ih h
  | case3 links location rest hdir ih =>
    rw [resolve_up (by rwa [hdirectory])]
    exact ih h
  | case5 links location hdir name hentry =>
    cases h
    by_cases hname : name :: location = x
    · refine .inr ⟨by rw [hname], links, ?_⟩
      rw [resolve_enter_of_some (by rwa [hdirectory]) (by rw [lookup_put hx, if_pos hname])
        (by simp), resolve_nil, hname]
    · exact .inl (by rw [resolve_enter_of_none (by rwa [hdirectory])
        (by rw [lookup_put hx, if_neg hname, hentry]), if_pos rfl])
  | case7 links location rest hdir name path hentry hstop =>
    rw [resolve, if_pos (by rwa [hdirectory])]
    simp only [(lookup_put_eq_link_iff hx).mpr hentry, if_pos hstop]
    exact .inl h
  | case9 location rest hdir name path hentry hgo links ih =>
    rw [resolve_enter_of_link (by rwa [hdirectory]) ((lookup_put_eq_link_iff hx).mpr hentry) hgo]
    exact ih h
  | case10 links location rest hdir name entry hlink hentry ih =>
    have hdir' : (fs.put x (.file content)).isDirectory location = true := by rwa [hdirectory]
    -- The entry may be the file that is written: a step into it goes on as before.
    by_cases hname : name :: location = x
    · rw [resolve_enter_of_some hdir' (by rw [lookup_put hx, if_pos hname]) (by simp)]
      exact ih h
    · rw [resolve_enter_of_some hdir' (by rw [lookup_put hx, if_neg hname, hentry])
        (fun path hpath => hlink path hpath)]
      exact ih h
  | case4 | case6 | case8 | case11 => cases h

/-- All that could be reached is reached as before. -/
theorem resolve_put (hx : fs.Takes x)
    (h : fs.resolve follow links location steps = .ok (.found target left)) :
    (fs.put x (.file content)).resolve follow links location steps = .ok (.found target left) :=
  (resolve_put_or hx h content).resolve_right nofun

/-- Where a path ended at nothing, there is nothing. -/
theorem lookup_of_resolve_vacant (h : fs.resolve follow links location steps = .ok (.vacant x)) :
    fs.lookup x = none := by
  fun_induction resolve fs follow links location steps with
  | case5 links location hdir name hentry => cases h; exact hentry
  | case2 | case3 | case9 | case10 => simp_all
  | case1 | case4 | case6 | case7 | case8 | case11 => cases h

/-- Where a path ended at nothing, it ends at what has been put there. -/
theorem resolve_put_of_vacant (h : fs.resolve follow links location steps = .ok (.vacant x)) :
    ∃ left, (fs.put x (.file content)).resolve follow links location steps =
      .ok (.found x left) := by
  have hx : fs.Takes x := .inl (lookup_of_resolve_vacant h)
  rcases resolve_put_or hx h content with hvacant | ⟨-, hfound⟩
  · have hnone := lookup_of_resolve_vacant hvacant
    rw [lookup_put hx, if_pos rfl] at hnone
    cases hnone
  · exact hfound

theorem locate_put (hx : fs.Takes x) (h : fs.locate follow path = .ok (.found target left)) :
    (fs.put x (.file content)).locate follow path = .ok (.found target left) := by
  rw [locate_eq_ok_iff] at h ⊢
  rw [workingDirectory_put]
  exact ⟨h.1, resolve_put hx h.2⟩

theorem locate_put_of_vacant (h : fs.locate follow path = .ok (.vacant x)) :
    ∃ left, (fs.put x (.file content)).locate follow path = .ok (.found x left) := by
  simp only [locate_eq_ok_iff, workingDirectory_put] at h ⊢
  obtain ⟨left, hafter⟩ := resolve_put_of_vacant h.2
  exact ⟨left, h.1, hafter⟩

/-- A path that ends somewhere ends there after a file has been put, too. -/
theorem exists_locate_put (hx : fs.Takes x) (h : fs.locate follow path = .ok place)
    (content : Bytes) : ∃ after, (fs.put x (.file content)).locate follow path = .ok after ∧
      after.location = place.location := by
  simp only [locate_eq_ok_iff, workingDirectory_put] at h ⊢
  rcases resolve_put_or hx h.2 content with hafter | ⟨rfl, left, hafter⟩
  · exact ⟨_, ⟨h.1, hafter⟩, rfl⟩
  · exact ⟨_, ⟨h.1, hafter⟩, rfl⟩

/-- What is reached after a file has been put was where it is before, if only as a vacant place. -/
theorem resolve_of_put (hx : fs.Takes x)
    (h : (fs.put x (.file content)).resolve follow links location steps = .ok place) :
    ∃ before, fs.resolve follow links location steps = .ok before ∧
      before.location = place.location := by
  have hdirectory : ∀ location, (fs.put x (.file content)).isDirectory location =
      fs.isDirectory location := isDirectory_put hx
  fun_induction resolve fs follow links location steps with
  | case1 =>
    rw [resolve_nil] at h
    cases h
    exact ⟨_, rfl, rfl⟩
  | case2 links location rest hdir ih =>
    rw [resolve_stay (by rwa [hdirectory])] at h
    exact ih h
  | case3 links location rest hdir ih =>
    rw [resolve_up (by rwa [hdirectory])] at h
    exact ih h
  | case4 links location rest hdir =>
    rw [resolve_tooLong (by rwa [hdirectory])] at h
    cases h
  | case5 links location hdir name hentry =>
    refine ⟨_, rfl, ?_⟩
    by_cases hname : name :: location = x
    · rw [resolve_enter_of_some (by rwa [hdirectory]) (by rw [lookup_put hx, if_pos hname])
        (by simp), resolve_nil] at h
      cases h
      rfl
    · rw [resolve_enter_of_none (by rwa [hdirectory]) (by rw [lookup_put hx, if_neg hname, hentry]),
        if_pos rfl] at h
      cases h
      rfl
  | case6 links location rest hdir name hentry hrest =>
    by_cases hname : name :: location = x
    · obtain ⟨step, more, rfl⟩ := List.exists_cons_of_ne_nil hrest
      rw [resolve_enter_of_some (by rwa [hdirectory]) (by rw [lookup_put hx, if_pos hname])
        (by simp), resolve_of_not_directory (by rw [hdirectory]; simp [isDirectory, hentry])] at h
      cases h
    · rw [resolve_enter_of_none (by rwa [hdirectory]) (by rw [lookup_put hx, if_neg hname, hentry]),
        if_neg hrest] at h
      cases h
  | case7 links location rest hdir name path hentry hstop =>
    rw [resolve, if_pos (by rwa [hdirectory])] at h
    simp only [(lookup_put_eq_link_iff hx).mpr hentry, if_pos hstop] at h
    cases h
    exact ⟨_, rfl, rfl⟩
  | case8 location rest hdir name path hentry hgo =>
    rw [resolve_enter_of_link_zero (by rwa [hdirectory]) ((lookup_put_eq_link_iff hx).mpr hentry)
      hgo] at h
    cases h
  | case9 location rest hdir name path hentry hgo links ih =>
    rw [resolve_enter_of_link (by rwa [hdirectory])
      ((lookup_put_eq_link_iff hx).mpr hentry) hgo] at h
    exact ih h
  | case10 links location rest hdir name entry hlink hentry ih =>
    have hdir' : (fs.put x (.file content)).isDirectory location = true := by rwa [hdirectory]
    by_cases hname : name :: location = x
    · rw [resolve_enter_of_some hdir' (by rw [lookup_put hx, if_pos hname]) (by simp)] at h
      exact ih h
    · rw [resolve_enter_of_some hdir' (by rw [lookup_put hx, if_neg hname, hentry])
        (fun path hpath => hlink path hpath)] at h
      exact ih h
  | case11 links location step rest hdir =>
    rw [resolve_of_not_directory (by rwa [hdirectory])] at h
    cases h

theorem locate_of_put (hx : fs.Takes x)
    (h : (fs.put x (.file content)).locate follow path = .ok place) :
    ∃ before, fs.locate follow path = .ok before ∧ before.location = place.location := by
  simp only [locate_eq_ok_iff, workingDirectory_put] at h ⊢
  obtain ⟨before, hbefore, hlocation⟩ := resolve_of_put hx h.2
  exact ⟨before, ⟨h.1, hbefore⟩, hlocation⟩

theorem lookup_of_locate_vacant (h : fs.locate follow path = .ok (.vacant x)) :
    fs.lookup x = none :=
  lookup_of_resolve_vacant (resolve_of_locate h)

/-! ### Reading -/

/-- What it takes to read the text of a file. -/
theorem fileText_eq_ok_iff :
    fs.fileText path = .ok text ↔
      ∃ location links content, fs.locate true path = .ok (.found location links) ∧
        fs.lookup location = some (.file content) ∧ Utf8.decode? content = some text := by
  unfold fileText FileSystem.content entry
  constructor
  · intro h
    cases hlocate : fs.locate true path with
    | error fault => simp [hlocate] at h
    | ok place =>
      cases place with
      | vacant location => simp [hlocate] at h
      | found location links =>
        cases hlookup : fs.lookup location with
        | none => simp [hlocate, hlookup] at h
        | some entry =>
          cases entry with
          | directory => simp [hlocate, hlookup] at h
          | link path => simp [hlocate, hlookup] at h
          | file content =>
            cases hdecode : Utf8.decode? content with
            | none => simp [hlocate, hlookup, hdecode] at h
            | some read =>
              simp only [hlocate, hlookup, hdecode, Except.ok.injEq] at h
              exact ⟨location, links, content, rfl, hlookup, h ▸ hdecode⟩
  · rintro ⟨location, links, content, hlocate, hlookup, hdecode⟩
    simp [hlocate, hlookup, hdecode]

/-- A file that holds an encoded text is read as that text. -/
theorem fileText_of_content (h : fs.content path = .ok (Utf8.encode text)) :
    fs.fileText path = .ok text := by
  rw [fileText, h]
  simp only [Utf8.decode?_encode]

/-- A file is read as before unless its path leads to what has been written. -/
theorem fileText_put_of_ne (hx : fs.Takes x) (h : fs.fileText path = .ok text)
    (hne : ∀ place, fs.locate true path = .ok place → place.location ≠ x) :
    (fs.put x (.file content)).fileText path = .ok text := by
  obtain ⟨location, links, old, hlocate, hlookup, hdecode⟩ := fileText_eq_ok_iff.mp h
  have hother : location ≠ x := hne _ hlocate
  refine fileText_eq_ok_iff.mpr ⟨location, links, old, locate_put hx hlocate, ?_, hdecode⟩
  rw [lookup_put hx, if_neg hother, hlookup]

/-- A file is read after writing as it was before, unless its path leads to what has been written.
-/
theorem fileText_of_put_of_ne (hx : fs.Takes x)
    (h : (fs.put x (.file content)).fileText path = .ok text)
    (hne : ∀ place, fs.locate true path = .ok place → place.location ≠ x) :
    fs.fileText path = .ok text := by
  obtain ⟨location, links, old, hlocate, hlookup, hdecode⟩ := fileText_eq_ok_iff.mp h
  obtain ⟨before, hbefore, hlocation⟩ := locate_of_put hx hlocate
  have hother : location ≠ x := by
    have hbeforeNe := hne before hbefore
    rwa [hlocation] at hbeforeNe
  rw [lookup_put hx, if_neg hother] at hlookup
  cases before with
  | found location' links' =>
    obtain rfl : location' = location := hlocation
    exact fileText_eq_ok_iff.mpr ⟨location', links', old, hbefore, hlookup, hdecode⟩
  | vacant location' =>
    obtain rfl : location' = location := hlocation
    rw [lookup_of_locate_vacant hbefore] at hlookup
    cases hlookup

/-- What has been put where a path ends is found there. -/
theorem locate_put_self (hx : fs.Takes place.location) (h : fs.locate true path = .ok place) :
    ∃ left, (fs.put place.location (.file content)).locate true path =
      .ok (.found place.location left) := by
  cases place with
  | vacant x => exact locate_put_of_vacant h
  | found x left => exact ⟨left, locate_put hx h⟩

/-- What has been written is read back. -/
theorem fileText_put_self (hx : fs.Takes place.location) (h : fs.locate true path = .ok place)
    (text : Text) :
    (fs.put place.location (.file (Utf8.encode text))).fileText path = .ok text := by
  obtain ⟨left, hlocate⟩ := locate_put_self hx h
  exact fileText_eq_ok_iff.mpr ⟨place.location, left, _, hlocate,
    by rw [lookup_put hx, if_pos rfl], Utf8.decode?_encode text⟩

/-! ### Writing -/

/-- What writing does, and when it does anything. A path that asks for a directory is never written
to. -/
theorem write_eq_ok_iff :
    fs.write path content = .ok after ↔
      path.endsInSlash = false ∧ ∃ place, fs.locate true path = .ok place ∧
        fs.isDirectory place.location = false ∧ after = fs.put place.location (.file content) := by
  unfold write writeTarget locate
  cases hspelling : spellingFault? path with
  | some fault => simp
  | none =>
    dsimp only
    by_cases hslash : path.endsInSlash = true
    · cases fs.resolve true maxLinks (origin fs.workingDirectory path)
        (withoutLast path.steps ++ [.stay]) <;> simp [hslash]
    · cases hresolve : fs.resolve true maxLinks (origin fs.workingDirectory path) path.steps with
      | error fault => simp [hslash]
      | ok place =>
        cases place with
        | vacant x =>
          have hnone : fs.isDirectory x = false := by
            simp [isDirectory, lookup_of_resolve_vacant hresolve]
          simpa [hslash, Place.location, hnone] using eq_comm
        | found x left =>
          cases hdir : fs.isDirectory x with
          | true => simp [hslash, Place.location, hdir]
          | false => simpa [hslash, Place.location, hdir] using eq_comm

theorem write_of_writeTarget (h : fs.writeTarget path = .ok x) (content : Bytes) :
    fs.write path content = .ok (fs.put x (.file content)) := by
  rw [write, h]

theorem exists_of_write_eq_ok (h : fs.write path content = .ok after) :
    ∃ place, fs.locate true path = .ok place ∧ fs.isDirectory place.location = false ∧
      after = fs.put place.location (.file content) :=
  (write_eq_ok_iff.mp h).2

/-- Whether a file can be written does not depend on what has been written to others, nor on the
content that it gets. -/
theorem exists_write_put_iff (hx : fs.Takes x) (more : Bytes) :
    (∃ after, (fs.put x (.file content)).write path more = .ok after) ↔
      ∃ after, fs.write path more = .ok after := by
  simp only [write_eq_ok_iff]
  constructor
  · rintro ⟨after, hslash, place, hplace, hdir, -⟩
    obtain ⟨before, hbefore, hlocation⟩ := locate_of_put hx hplace
    rw [isDirectory_put hx, ← hlocation] at hdir
    exact ⟨_, hslash, before, hbefore, hdir, rfl⟩
  · rintro ⟨after, hslash, place, hplace, hdir, -⟩
    obtain ⟨later, hlater, hlocation⟩ := exists_locate_put hx hplace content
    rw [← isDirectory_put hx, ← hlocation] at hdir
    exact ⟨_, hslash, later, hlater, hdir, rfl⟩

theorem putEntry_of_entryAt {entry : Entry} {entries : List (Location × Entry)}
    (h : entryAt location entries = some entry) : putEntry location entry entries = entries := by
  induction entries with
  | nil => simp [entryAt] at h
  | cons first rest ih =>
    obtain ⟨key, old⟩ := first
    unfold entryAt at h
    unfold putEntry
    split
    · next hkey =>
      rw [if_pos hkey] at h
      cases h
      rw [hkey]
    · next hkey =>
      rw [if_neg hkey] at h
      rw [ih h]

/-- Putting an entry where it is already changes nothing. -/
theorem put_of_lookup {entry : Entry} (h : fs.lookup x = some entry) : fs.put x entry = fs := by
  unfold put
  split
  · rfl
  · next hx =>
    have hne : x ≠ [] := by
      rintro rfl
      exact hx List.nil_suffix
    rw [lookup, if_neg hne] at h
    simp only [putEntry_of_entryAt h]

/-- Writing to a file what is read from it changes nothing. -/
theorem write_of_fileText (h : fs.fileText path = .ok text)
    (hwrite : fs.write path (Utf8.encode text) = .ok after) : after = fs := by
  obtain ⟨location, links, old, hlocate, hlookup, hdecode⟩ := fileText_eq_ok_iff.mp h
  obtain ⟨place, hplace, hdir, rfl⟩ := exists_of_write_eq_ok hwrite
  rw [hlocate] at hplace
  cases hplace
  rw [Utf8.encode_of_decode? hdecode]
  exact put_of_lookup hlookup

end FileSystem

end GoldenFiles
