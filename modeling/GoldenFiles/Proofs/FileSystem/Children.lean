import GoldenFiles.Proofs.FileSystem.Writing

/-!
# Names in a directory

The names in a directory come in the order of their bytes, which determines their row. A file that
is written keeps all rows as they are, or has its name put into the row of its directory.

## Main results

* `FileSystem.children_eq_of_perm` — names in order are determined by what they are
* `FileSystem.pairwise_lt_children` — there are no two entries of one name
* `FileSystem.children_put_of_file` — a file with new content
* `FileSystem.children_put_of_none`, `FileSystem.children_put_of_ne` — a new file
-/

namespace GoldenFiles

/-! ### The order of names -/

namespace Name

variable {a b : Name}

@[ext] theorem ext (h : a.bytes = b.bytes) : a = b := by
  cases a
  cases b
  cases h
  rfl

theorem le_trans (a b c : Name) (hab : a.le b = true) (hbc : b.le c = true) : a.le c = true := by
  simp only [le, decide_eq_true_eq] at *
  exact List.le_trans hab hbc

theorem le_total (a b : Name) : (a.le b || b.le a) = true := by
  simp only [le, Bool.or_eq_true, decide_eq_true_eq]
  exact List.le_total a.bytes b.bytes

theorem le_antisymm (hab : a.le b = true) (hba : b.le a = true) : a = b := by
  simp only [le, decide_eq_true_eq] at *
  ext1
  exact List.le_antisymm hab hba

end Name

namespace FileSystem

variable {fs : FileSystem} {location other x : Location} {name : Name}
  {entry : Entry} {entries : List (Location × Entry)}

/-- The names in a directory as they are listed. -/
def names (fs : FileSystem) (location : Location) : List Name :=
  fs.entries.filterMap fun entry => nameIn location entry.1

theorem pairwise_children (fs : FileSystem) (location : Location) :
    (fs.children location).Pairwise fun a b => a.le b = true :=
  List.pairwise_mergeSort Name.le_trans Name.le_total _

theorem children_perm (fs : FileSystem) (location : Location) :
    (fs.children location).Perm (fs.names location) :=
  List.mergeSort_perm _ _

/-- Names in order are determined by what they are. -/
theorem children_eq_of_perm {row : List Name} (hsorted : row.Pairwise fun a b => a.le b = true)
    (hperm : row.Perm (fs.names location)) : fs.children location = row :=
  ((fs.children_perm location).trans hperm.symm).eq_of_pairwise
    (fun _ _ _ _ => Name.le_antisymm) (fs.pairwise_children location) hsorted

/-! ### Listed entries -/

theorem entryAt_eq_none_iff : entryAt x entries = none ↔ x ∉ entries.map (·.1) := by
  induction entries with
  | nil => simp [entryAt]
  | cons first rest ih =>
    obtain ⟨key, old⟩ := first
    unfold entryAt
    split
    · next hkey => simp [hkey]
    · next hkey => simp [ih, Ne.symm hkey]

theorem keys_putEntry_of_mem (h : x ∈ entries.map (·.1)) :
    (putEntry x entry entries).map (·.1) = entries.map (·.1) := by
  induction entries with
  | nil => simp at h
  | cons first rest ih =>
    obtain ⟨key, old⟩ := first
    unfold putEntry
    split
    · next hkey => simp [hkey]
    · next hkey =>
      have hrest : x ∈ rest.map (·.1) := by simpa [Ne.symm hkey] using h
      simp [ih hrest]

theorem putEntry_of_not_mem (h : x ∉ entries.map (·.1)) :
    putEntry x entry entries = entries ++ [(x, entry)] := by
  induction entries with
  | nil => rfl
  | cons first rest ih =>
    obtain ⟨key, old⟩ := first
    obtain ⟨hkey, hrest⟩ : x ≠ key ∧ x ∉ rest.map (·.1) := by simpa using h
    rw [putEntry, if_neg (Ne.symm hkey), ih hrest, List.cons_append]

theorem mem_keys_of_lookup (h : fs.lookup x = some entry) (hentry : entry ≠ .directory) :
    x ∈ fs.entries.map (·.1) := by
  have hx : x ≠ [] := by
    rintro rfl
    exact hentry (Option.some.inj h).symm
  apply Classical.byContradiction
  intro hnot
  rw [lookup, if_neg hx, entryAt_eq_none_iff.mpr hnot] at h
  cases h

theorem not_mem_keys_of_lookup (hx : x ≠ []) (h : fs.lookup x = none) :
    x ∉ fs.entries.map (·.1) := by
  rw [lookup, if_neg hx] at h
  exact entryAt_eq_none_iff.mp h

theorem mem_children_of_lookup (h : fs.lookup (name :: location) = some entry) :
    name ∈ fs.children location := by
  rw [lookup, if_neg (List.cons_ne_nil _ _)] at h
  exact mem_children_iff.mpr ⟨entry, mem_of_entryAt h⟩

theorem names_eq (fs : FileSystem) (location : Location) :
    fs.names location = (fs.entries.map (·.1)).filterMap (nameIn location) := by
  rw [names, List.filterMap_map]
  rfl

theorem eq_of_nameIn {key : Location} (h : nameIn location key = some name) :
    key = name :: location := by
  cases key with
  | nil => cases h
  | cons first parent =>
    by_cases hparent : parent = location
    · simp only [nameIn, if_pos hparent, Option.some.injEq] at h
      rw [h, hparent]
    · simp [nameIn, hparent] at h

theorem nodup_children (fs : FileSystem) (location : Location) : (fs.children location).Nodup := by
  rw [(fs.children_perm location).nodup_iff, names_eq]
  refine List.Pairwise.filterMap (S := fun a b => a ≠ b) _ ?_ fs.distinct
  intro key other hne name hname next hnext heq
  rw [eq_of_nameIn hname, eq_of_nameIn hnext, heq] at hne
  exact hne rfl

/-- The names in a directory strictly increase. -/
theorem pairwise_lt_children (fs : FileSystem) (location : Location) :
    (fs.children location).Pairwise fun a b => a.bytes < b.bytes := by
  refine ((fs.pairwise_children location).and (fs.nodup_children location)).imp ?_
  rintro a b ⟨hle, hne⟩
  apply Classical.byContradiction
  intro hlt
  exact hne (Name.le_antisymm hle (by simpa [Name.le] using hlt))

/-! ### Files that are written -/

/-- A file with new content has no new name. -/
theorem children_put_of_file {old : Bytes} (h : fs.lookup x = some (.file old)) (content : Bytes)
    (location : Location) :
    (fs.put x (.file content)).children location = fs.children location := by
  have hx : ¬ x <:+ fs.workingDirectory := not_suffix_of_lookup (by simp [h])
  have hkeys : (fs.put x (.file content)).entries.map (·.1) = fs.entries.map (·.1) := by
    rw [entries_put hx]
    exact keys_putEntry_of_mem (mem_keys_of_lookup h (by simp))
  refine (children_eq_of_perm (pairwise_children _ location) ?_).symm
  rw [names_eq, ← hkeys, ← names_eq]
  exact children_perm _ location

theorem names_put_of_none (h : fs.lookup (name :: location) = none) (entry : Entry)
    (other : Location) :
    (fs.put (name :: location) entry).names other =
      fs.names other ++ (nameIn other (name :: location)).toList := by
  have hentries : (fs.put (name :: location) entry).entries =
      fs.entries ++ [(name :: location, entry)] := by
    rw [entries_put (not_suffix_of_lookup (by simp [h]))]
    exact putEntry_of_not_mem (not_mem_keys_of_lookup (List.cons_ne_nil _ _) h)
  rw [names, hentries, List.filterMap_append, names]
  cases h : nameIn other (name :: location) <;> simp [h]

/-- A new file has no name in other directories. -/
theorem children_put_of_ne (h : fs.lookup (name :: location) = none) (entry : Entry)
    (hother : other ≠ location) :
    (fs.put (name :: location) entry).children other = fs.children other := by
  refine (children_eq_of_perm (pairwise_children _ other) ?_).symm
  have hnames := names_put_of_none h entry other
  rw [nameIn, if_neg (Ne.symm hother), Option.toList_none, List.append_nil] at hnames
  rw [← hnames]
  exact children_perm _ other

/-- A new file has one new name, in its directory. -/
theorem children_put_of_none (h : fs.lookup (name :: location) = none) (entry : Entry) :
    ∃ front behind, fs.children location = front ++ behind ∧
      (fs.put (name :: location) entry).children location = front ++ name :: behind := by
  have hperm := children_perm (fs.put (name :: location) entry) location
  rw [names_put_of_none h, nameIn, if_pos rfl, Option.toList_some] at hperm
  have hmem : name ∈ (fs.put (name :: location) entry).children location :=
    hperm.mem_iff.mpr (List.mem_append_right _ (List.mem_singleton_self name))
  obtain ⟨front, behind, hsplit⟩ := List.append_of_mem hmem
  refine ⟨front, behind, ?_, hsplit⟩
  -- Without the new name the row is still in order, and holds the names from before.
  have hsorted := pairwise_children (fs.put (name :: location) entry) location
  rw [hsplit] at hperm hsorted
  refine children_eq_of_perm (hsorted.sublist ?_) ?_
  · exact (List.sublist_cons_self name behind).append_left front
  · have hcons : (name :: (front ++ behind)).Perm (name :: fs.names location) :=
      List.perm_middle.symm.trans (hperm.trans List.perm_append_comm)
    exact hcons.cons_inv

end FileSystem

end GoldenFiles
