import GoldenFiles.FileSystem.Access
import GoldenFiles.Proofs.Path

/-!
# Following paths

Steps are followed one stretch after the other: what lies behind a stretch is followed from where
the stretch has led. A path extended by a name therefore leads to the entry of that name, and a path
without its idle end where the path leads.

## Main definitions

* `Place.location` — where a path ends
* `FileSystem.Reaches` — a path leads to an entry

## Main results

* `FileSystem.resolve_append` — one stretch of steps after the other
* `FileSystem.Reaches.resolve_join` — a path extended by a name
* `FileSystem.Reaches.trimmed` — a path without its idle end
-/

namespace GoldenFiles

/-- Where something is, or could be made. -/
def Place.location : Place → Location
  | .found location _ => location
  | .vacant location => location

namespace FileSystem

variable {fs : FileSystem} {follow : Bool} {links left : Nat} {location target : Location}
  {name : Name} {rest steps more : List Step} {path : Path}

/-! ### Single steps -/

@[simp] theorem resolve_nil :
    fs.resolve follow links location [] = .ok (.found location links) := by
  rw [resolve]

theorem resolve_of_not_directory {step : Step} (h : ¬ fs.isDirectory location = true) :
    fs.resolve follow links location (step :: rest) = .error .notADirectory := by
  cases step <;> rw [resolve, if_neg h]

theorem resolve_stay (h : fs.isDirectory location = true) :
    fs.resolve follow links location (.stay :: rest) = fs.resolve follow links location rest := by
  rw [resolve, if_pos h]

theorem resolve_up (h : fs.isDirectory location = true) :
    fs.resolve follow links location (.up :: rest) =
      fs.resolve follow links location.tail rest := by
  rw [resolve, if_pos h]

theorem resolve_tooLong (h : fs.isDirectory location = true) :
    fs.resolve follow links location (.tooLong :: rest) = .error .nameTooLong := by
  rw [resolve, if_pos h]

theorem resolve_enter_of_none (h : fs.isDirectory location = true)
    (hentry : fs.lookup (name :: location) = none) :
    fs.resolve follow links location (.enter name :: rest) =
      if rest = [] then .ok (.vacant (name :: location)) else .error .notFound := by
  rw [resolve, if_pos h]
  simp only [hentry]

theorem resolve_enter_of_some {entry : Entry} (h : fs.isDirectory location = true)
    (hentry : fs.lookup (name :: location) = some entry) (hlink : ∀ path, entry ≠ .link path) :
    fs.resolve follow links location (.enter name :: rest) =
      fs.resolve follow links (name :: location) rest := by
  rw [resolve, if_pos h]
  cases entry with
  | link path => exact absurd rfl (hlink path)
  | file content => simp only [hentry]
  | directory => simp only [hentry]

theorem resolve_enter_of_link (h : fs.isDirectory location = true)
    (hentry : fs.lookup (name :: location) = some (.link path))
    (hgo : ¬ (rest = [] ∧ follow = false)) :
    fs.resolve follow (links + 1) location (.enter name :: rest) =
      fs.resolve follow links (origin location path) (path.steps ++ rest) := by
  rw [resolve, if_pos h]
  simp only [hentry, if_neg hgo]

theorem resolve_enter_of_link_zero (h : fs.isDirectory location = true)
    (hentry : fs.lookup (name :: location) = some (.link path))
    (hgo : ¬ (rest = [] ∧ follow = false)) :
    fs.resolve follow 0 location (.enter name :: rest) = .error .tooManyLinks := by
  rw [resolve, if_pos h]
  simp only [hentry, if_neg hgo]

/-! ### Stretches of steps -/

/-- Follows further steps from where a stretch has led. There is nothing behind a vacant place. -/
def continued (fs : FileSystem) (more : List Step) : Except Fault Place → Except Fault Place
  | .error fault => .error fault
  | .ok (.found location links) => fs.resolve true links location more
  | .ok (.vacant location) => if more = [] then .ok (.vacant location) else .error .notFound

/-- Steps are followed one stretch after the other. -/
theorem resolve_append (links : Nat) (location : Location) (steps more : List Step) :
    fs.resolve true links location (steps ++ more) =
      fs.continued more (fs.resolve true links location steps) := by
  generalize hfollow : true = follow
  fun_induction resolve fs follow links location steps with
  | case1 => subst hfollow; rfl
  | case2 links location rest hdir ih => rw [List.cons_append, resolve_stay hdir, ih]
  | case3 links location rest hdir ih => rw [List.cons_append, resolve_up hdir, ih]
  | case4 links location rest hdir => rw [List.cons_append, resolve_tooLong hdir, continued]
  | case5 links location hdir name hentry =>
    rw [List.singleton_append, resolve_enter_of_none hdir hentry, continued]
  | case6 links location rest hdir name hentry hrest =>
    rw [List.cons_append, resolve_enter_of_none hdir hentry, if_neg (by simp [hrest]), continued]
  | case7 links location rest hdir name path hentry hstop =>
    exact absurd (hfollow.trans hstop.2) (by simp)
  | case8 location rest hdir name path hentry hgo =>
    rw [List.cons_append, resolve_enter_of_link_zero hdir hentry (by simp [← hfollow]), continued]
  | case9 location rest hdir name path hentry hgo links ih =>
    rw [List.cons_append, resolve_enter_of_link hdir hentry (by simp [← hfollow]),
      ← List.append_assoc, ih]
  | case10 links location rest hdir name entry hlink hentry ih =>
    rw [List.cons_append, resolve_enter_of_some hdir hentry (fun path hpath => hlink path hpath),
      ih]
  | case11 links location step rest hdir =>
    rw [List.cons_append, resolve_of_not_directory hdir, continued]

/-- Behind a stretch that leads to an entry, further steps are followed from there. Links on the way
are followed whatever becomes of one at the end. -/
theorem resolve_append_of_found (hmore : more ≠ [])
    (h : fs.resolve true links location steps = .ok (.found target left)) :
    fs.resolve follow links location (steps ++ more) = fs.resolve follow left target more := by
  generalize hgo : true = followed at h
  fun_induction resolve fs followed links location steps with
  | case1 =>
    cases h
    rfl
  | case2 links location rest hdir ih => rw [List.cons_append, resolve_stay hdir, ih h]
  | case3 links location rest hdir ih => rw [List.cons_append, resolve_up hdir, ih h]
  | case7 links location rest hdir name path hentry hstop =>
    exact absurd (hgo.trans hstop.2) (by simp)
  | case9 location rest hdir name path hentry hlast links ih =>
    rw [List.cons_append, resolve_enter_of_link hdir hentry (by simp [hmore]), ← List.append_assoc,
      ih h]
  | case10 links location rest hdir name entry hlink hentry ih =>
    rw [List.cons_append, resolve_enter_of_some hdir hentry (fun path hpath => hlink path hpath),
      ih h]
  | case4 | case5 | case6 | case8 | case11 => cases h

/-- Steps that stay lead nowhere else. -/
theorem resolve_stays {idle : List Step} (hidle : ∀ step ∈ idle, step = .stay)
    (h : fs.resolve follow links location idle = .ok (.found target left)) :
    target = location ∧ left = links ∧ (idle ≠ [] → fs.isDirectory location = true) := by
  induction idle with
  | nil =>
    rw [resolve_nil] at h
    cases h
    exact ⟨rfl, rfl, fun hne => absurd rfl hne⟩
  | cons step idle ih =>
    obtain ⟨rfl, hrest⟩ := List.forall_mem_cons.mp hidle
    by_cases hdir : fs.isDirectory location = true
    · rw [resolve_stay hdir] at h
      obtain ⟨rfl, rfl, -⟩ := ih hrest h
      exact ⟨rfl, rfl, fun _ => hdir⟩
    · rw [resolve_of_not_directory hdir] at h
      cases h

/-- Steps that stay can be left out at the end. -/
theorem resolve_of_append_stays {idle : List Step} (hidle : ∀ step ∈ idle, step = .stay)
    (h : fs.resolve true links location (steps ++ idle) = .ok (.found target left)) :
    fs.resolve true links location steps = .ok (.found target left) := by
  rw [resolve_append] at h
  cases hsteps : fs.resolve true links location steps with
  | error fault => rw [hsteps] at h; cases h
  | ok place =>
    rw [hsteps] at h
    cases place with
    | found reached linksReached =>
      obtain ⟨rfl, rfl, -⟩ := resolve_stays hidle h
      rfl
    | vacant reached =>
      simp only [continued] at h
      split at h <;> cases h

/-! ### Paths -/

/-- A path leads to an entry, with so many links left that could still be followed. -/
def Reaches (fs : FileSystem) (path : Path) (location : Location) (links : Nat) : Prop :=
  fs.resolve true maxLinks (origin fs.workingDirectory path) path.steps =
    .ok (.found location links)

/-- A path ends where its steps end, if nothing is wrong with its spelling. -/
theorem locate_eq_ok_iff {place : Place} :
    fs.locate follow path = .ok place ↔ spellingFault? path = none ∧
      fs.resolve follow maxLinks (origin fs.workingDirectory path) path.steps = .ok place := by
  unfold locate
  split <;> simp [*]

theorem resolve_of_locate {place : Place} (h : fs.locate follow path = .ok place) :
    fs.resolve follow maxLinks (origin fs.workingDirectory path) path.steps = .ok place :=
  (locate_eq_ok_iff.mp h).2

theorem reaches_of_locate (h : fs.locate true path = .ok (.found location links)) :
    fs.Reaches path location links :=
  resolve_of_locate h

namespace Reaches

variable {entry : Bytes}

/-- A path extended by a name leads where the name leads from the directory of the path. -/
theorem resolve_join (h : fs.Reaches path location links) (hentry : slash ∉ entry) :
    fs.resolve follow maxLinks (origin fs.workingDirectory (path.join entry))
      (path.join entry).steps = fs.resolve follow links location [.ofSegment entry] := by
  obtain ⟨front, hpath, hjoin⟩ := path.steps_join hentry
  have hfront : fs.resolve true maxLinks (origin fs.workingDirectory path) front =
      .ok (.found location links) := by
    rcases hpath with hpath | hpath
    · exact hpath ▸ h
    · rw [Reaches, hpath] at h
      exact resolve_of_append_stays (by simp) h
  rw [hjoin, origin, path.isAbsolute_join hentry, ← origin,
    resolve_append_of_found (List.cons_ne_nil _ _) hfront]

/-- A path leads to the same entry without its idle end. -/
theorem trimmed (h : fs.Reaches path location links) : fs.Reaches path.trimmed location links := by
  unfold Reaches at h ⊢
  rw [origin, path.isAbsolute_trimmed, ← origin]
  rcases path.steps_trimmed with ⟨idle, hidle, hsteps⟩ | ⟨habsolute, htrimmed, hstay⟩
  · rw [hsteps] at h
    exact resolve_of_append_stays hidle h
  · obtain ⟨rfl, rfl, -⟩ := resolve_stays hstay h
    have hroot : fs.isDirectory [] = true := by simp [isDirectory, lookup]
    rw [htrimmed]
    change fs.resolve true maxLinks _ [.stay, .stay] = _
    rw [origin, if_pos habsolute, resolve_stay hroot, resolve_stay hroot, resolve_nil]

end Reaches

end FileSystem

end GoldenFiles
