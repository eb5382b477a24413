import GoldenFiles.Text.LineEnding

/-!
# Line endings

Normalizing takes one pass, which removes every pair of carriage return and line feed that a text
has and can bring together a new one: a carriage return in front of a pair is left in front of its
line feed. So texts that differ in their line endings only become the same text, but what comes out
is free of pairs only if no carriage return stood in front of one.

## Main definitions

* `Text.pair`, `Text.returnedPair` — a pair, and one with a carriage return in front of it
* `Text.Recoded` — the same text with some line feeds written as pairs

## Main results

* `Text.pair_infix_normalize_iff` — the texts in which a pair is left
* `Text.normalize_eq_self_iff` — normal texts are those without a pair
* `Text.normalize_of_recoded` — it is lost in which way lines ended
-/

namespace GoldenFiles.Text

variable {text other : Text} {c : Char}

/-- A carriage return with a line feed behind it. -/
def pair : Text := ['\r', '\n']

/-- A pair with a carriage return in front of it. -/
def returnedPair : Text := '\r' :: pair

/-! ### Pairs in a text -/

theorem pair_prefix_cons_iff : pair <+: c :: text ↔ c = '\r' ∧ text.head? = some '\n' := by
  rw [pair, List.cons_prefix_cons, eq_comm]
  cases text with
  | nil => simp
  | cons d rest => simp [List.cons_prefix_cons, eq_comm]

theorem pair_infix_cons_iff :
    pair <:+: c :: text ↔ (c = '\r' ∧ text.head? = some '\n') ∨ pair <:+: text := by
  rw [List.infix_cons_iff, pair_prefix_cons_iff]

theorem returnedPair_infix_cons_iff :
    returnedPair <:+: c :: text ↔ (c = '\r' ∧ pair <+: text) ∨ returnedPair <:+: text := by
  rw [List.infix_cons_iff, returnedPair, List.cons_prefix_cons, eq_comm]

/-- Characters that normalizing keeps are not the beginning of a pair. -/
theorem not_pair_prefix_cons (h : ∀ rest, c = '\r' → text = '\n' :: rest → False) :
    ¬ pair <+: c :: text := by
  rw [pair_prefix_cons_iff]
  rintro ⟨hc, hhead⟩
  obtain ⟨rest, hrest⟩ := List.head?_eq_some_iff.mp hhead
  exact h rest hc hrest

theorem hasPair_iff : hasPair text = true ↔ pair <:+: text := by
  fun_induction hasPair text with
  | case1 rest => exact iff_of_true rfl (pair_infix_cons_iff.mpr (.inl ⟨rfl, rfl⟩))
  | case2 c rest hc ih =>
    rw [List.infix_cons_iff, ih]
    exact (or_iff_right (not_pair_prefix_cons hc)).symm
  | case3 => simp [pair]

/-! ### Pairs that are left -/

/-- A line feed comes first where one came first, or a pair. -/
theorem head?_normalize_iff :
    (normalize text).head? = some '\n' ↔ text.head? = some '\n' ∨ pair <+: text := by
  fun_induction normalize text with
  | case1 rest ih => simp [pair]
  | case2 c rest hc ih => exact (or_iff_left (not_pair_prefix_cons hc)).symm
  | case3 => simp [pair]

/-- A pair is left where a carriage return stood in front of one. -/
theorem pair_infix_normalize_iff : pair <:+: normalize text ↔ returnedPair <:+: text := by
  fun_induction normalize text with
  | case1 rest ih =>
    rw [pair_infix_cons_iff, ih, returnedPair_infix_cons_iff, returnedPair_infix_cons_iff]
    simp [pair]
  | case2 c rest hc ih =>
    rw [pair_infix_cons_iff, returnedPair_infix_cons_iff, ih, head?_normalize_iff]
    refine or_congr_left (and_congr_right fun hreturn => or_iff_right fun hhead => ?_)
    exact not_pair_prefix_cons hc (pair_prefix_cons_iff.mpr ⟨hreturn, hhead⟩)
  | case3 => simp [pair, returnedPair]

/-- Normal texts are those without a pair. -/
theorem normalize_eq_self_iff : normalize text = text ↔ ¬ pair <:+: text := by
  rw [← hasPair_iff, Bool.not_eq_true]
  refine ⟨fun h => ?_, normalize_eq_self⟩
  fun_induction normalize text with
  | case1 rest ih => simp at h
  | case2 c rest hc ih =>
    rw [hasPair]
    · exact ih (List.cons_inj_right c |>.mp h)
    · exact hc
  | case3 => rfl

/-! ### Other line endings -/

/-- The same text with carriage returns in front of some of its line feeds. -/
inductive Recoded : Text → Text → Prop
  | nil : Recoded [] []
  | keep (c : Char) {text other : Text} : Recoded text other → Recoded (c :: text) (c :: other)
  | turn {text other : Text} : Recoded text other → Recoded ('\n' :: text) ('\r' :: '\n' :: other)

/-- A line feed that comes first has done so before. -/
theorem Recoded.head? (h : Recoded text other) (hhead : other.head? = some '\n') :
    text.head? = some '\n' := by
  cases h with
  | nil => exact hhead
  | keep c h => exact hhead
  | turn h => simp at hhead

/-- Whether lines end in pairs or in line feeds, they are the same when normalized. -/
theorem normalize_of_recoded (h : Recoded text other) (hpair : ¬ pair <:+: text) :
    normalize other = text := by
  induction h with
  | nil => rfl
  | @keep c text other h ih =>
    rw [pair_infix_cons_iff, not_or] at hpair
    rw [normalize, ih hpair.2]
    -- A carriage return that has been there does not come before a line feed now.
    rintro behind rfl rfl
    exact hpair.1 ⟨rfl, h.head? rfl⟩
  | turn h ih =>
    rw [pair_infix_cons_iff, not_or] at hpair
    rw [normalize, ih hpair.2]

end GoldenFiles.Text
