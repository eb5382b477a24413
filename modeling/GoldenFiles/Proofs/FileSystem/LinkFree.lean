import GoldenFiles.Proofs.FileSystem.Walking

/-!
# File systems without symbolic links

Without links a name leads to the entry of that name and nowhere else, so that a walk comes to every
directory on one way only, and what it has found is determined by where it is.

## Main definitions

* `FileSystem.LinkFree` — there are no symbolic links

## Main results

* `FileSystem.LinkFree.write` — writing makes no links
* `FileSystem.LinkFree.location_of_resolve` — a name leads to its entry
* `FileSystem.LinkFree.exists_visit` — where the files are that a walk comes upon
* `Visit.Straight.file_inj` — different files are at different locations
-/

namespace GoldenFiles

variable {fs after : FileSystem} {location base x : Location} {name : Name} {content : Bytes}
  {path root : Path} {place : Place} {files : List FoundFile} {visit inner : Visit}

/-- A visit of the directory to which the names on the way lead from where the walk began. -/
structure Visit.Straight (fs : FileSystem) (root : Path) (base : Location) (visit : Visit) : Prop
    extends visit.Comes fs root where
  location_eq : visit.location = visit.above.reverse ++ base

namespace FileSystem

/-- There are no symbolic links. -/
def LinkFree (fs : FileSystem) : Prop := ∀ location path, fs.lookup location ≠ some (.link path)

namespace LinkFree

theorem put (h : fs.LinkFree) (hx : fs.Takes x) : (fs.put x (.file content)).LinkFree :=
  fun location path hlink => h location path ((lookup_put_eq_link_iff hx).mp hlink)

theorem takes (h : fs.LinkFree) (hdir : fs.isDirectory x = false) : fs.Takes x := by
  cases hlookup : fs.lookup x with
  | none => exact .inl hlookup
  | some entry =>
    cases entry with
    | file content => exact .inr ⟨content, hlookup⟩
    | directory => simp [isDirectory, hlookup] at hdir
    | link path => exact absurd hlookup (h x path)

theorem write (h : fs.LinkFree) (hwrite : fs.write path content = .ok after) : after.LinkFree := by
  obtain ⟨place, -, hdir, rfl⟩ := exists_of_write_eq_ok hwrite
  exact h.put (h.takes hdir)

/-- A name leads to its entry. -/
theorem location_of_resolve (h : fs.LinkFree) {follow : Bool} {links : Nat}
    (hresolve : fs.resolve follow links location [.enter name] = .ok place) :
    place.location = name :: location := by
  by_cases hdir : fs.isDirectory location = true
  · cases hlookup : fs.lookup (name :: location) with
    | none =>
      rw [resolve_enter_of_none hdir hlookup, if_pos rfl] at hresolve
      cases hresolve
      rfl
    | some entry =>
      have hlink : ∀ path, entry ≠ .link path := fun path hpath =>
        h (name :: location) path (hpath ▸ hlookup)
      rw [resolve_enter_of_some hdir hlookup hlink, resolve_nil] at hresolve
      cases hresolve
      rfl
  · rw [resolve_of_not_directory hdir] at hresolve
    cases hresolve

theorem opens_straight (h : fs.LinkFree) (hvisit : visit.Straight fs root base)
    (hopens : visit.Opens fs name inner) : inner.Straight fs root base := by
  refine ⟨hvisit.toComes.opens hopens, ?_⟩
  cases hopens with
  | directory => simp [Visit.descend, hvisit.location_eq]
  | link hlink => exact absurd hlink (h _ _)

/-- Where the files are that a walk comes upon. -/
theorem exists_visit (h : fs.LinkFree) (hwalk : fs.walk root = .ok files) :
    ∃ base, ∀ file ∈ files, ∃ visit : Visit,
      visit.Straight fs root base ∧ file = visit.file file.name := by
  obtain ⟨base, links, hlocate, hdir, hwalks⟩ := walk_eq_ok_iff.mp hwalk
  refine ⟨base, ?_⟩
  intro file hmem
  have hstart : (Visit.start root base links).Straight fs root base :=
    ⟨Visit.comes_start hlocate hdir, rfl⟩
  obtain ⟨visit, hvisit, -, hfile⟩ :=
    hwalks.exists_visit (fun hvisit hopens _ => h.opens_straight hvisit hopens) hstart file hmem
  exact ⟨visit, hvisit, hfile⟩

end LinkFree

end FileSystem

/-- Different files are at different locations. -/
theorem Visit.Straight.file_inj {other : Name} (h : visit.Straight fs root base)
    (hinner : inner.Straight fs root base)
    (heq : name :: visit.location = other :: inner.location) :
    visit.file name = inner.file other := by
  obtain ⟨rfl, hlocation⟩ := List.cons.inj heq
  rw [h.location_eq, hinner.location_eq] at hlocation
  have habove : visit.above = inner.above :=
    List.reverse_inj.mp (List.append_cancel_right hlocation)
  have hpath : visit.path = inner.path := by rw [h.path_eq, hinner.path_eq, habove]
  rw [Visit.file, Visit.file, habove, hpath]

end GoldenFiles
