import GoldenFiles.Sexp.Printer
import Mathlib.Data.List.Forall2

/-!
# Columns of printed programs

The column at which a form is to begin is handed down from list to item, and whether the form is
broken over lines is decided by that number alone. It is the right number: what the printer has
written on the line by then is that many characters, whatever lists are open around the form and
whatever line feeds stand in literals before it. Line feeds in literals are not the printer's own,
so a printed program is taken as a row of strokes, which tell who has written what.

## Main definitions

* `Stroke` — a piece of a printed program
* `Typeset`, `TypesetBelow` — how forms can be set at a column, each list broken or not
* `Form.Fits` — whether a form is printed on one line at a column
* `lineSoFar` — what stands behind the last line feed of the printer's own

## Main results

* `exists_typeset_layout` — a form at the column where it begins
* `printProgram_typeset` — a whole program
-/

namespace GoldenFiles.Sexp

/-! ### Strokes -/

/-- A piece of a printed program. Forms on one line and lists that are broken know the column at
which they are to begin. -/
inductive Stroke
  /-- A form on one line. -/
  | whole (column : Nat) (form : Form)
  /-- The opening parenthesis of a broken list with the given items. -/
  | opening (column : Nat) (items : List Form)
  /-- The closing parenthesis of a broken list. -/
  | closing
  /-- A line feed between two lines. -/
  | separator
  /-- Spaces at the beginning of a line. -/
  | indent (columns : Nat)

/-- The text of a stroke. -/
def Stroke.text : Stroke → Text
  | .whole _ form => form.flat
  | .opening _ _ => ['(']
  | .closing => [')']
  | .separator => ['\n']
  | .indent columns => List.replicate columns ' '

/-- The text of a row of strokes. -/
def textOf (strokes : List Stroke) : Text := strokes.flatMap Stroke.text

@[simp] theorem textOf_nil : textOf [] = [] := rfl

@[simp] theorem textOf_cons (stroke : Stroke) (rest : List Stroke) :
    textOf (stroke :: rest) = stroke.text ++ textOf rest := rfl

@[simp] theorem textOf_append (a b : List Stroke) : textOf (a ++ b) = textOf a ++ textOf b :=
  List.flatMap_append

/-! ### Setting forms -/

mutual

/-- The strokes for a form that is to begin at `column`. Whether a list with items is broken is left
open: if it is, its head comes one column further, right behind the parenthesis. A list of one item
can read the same either way, but not as the same strokes. -/
inductive Typeset : Nat → Form → List Stroke → Prop
  | whole (column : Nat) (form : Form) : Typeset column form [.whole column form]
  | broken {column : Nat} {head : Form} {rest : List Form} {first others : List Stroke} :
      Typeset (column + 1) head first → TypesetBelow (column + 2) rest others →
        Typeset column (.list (head :: rest))
          (.opening column (head :: rest) :: (first ++ (others ++ [.closing])))

/-- The strokes for forms each of which is alone at the beginning of a new line, at `column`. -/
inductive TypesetBelow : Nat → List Form → List Stroke → Prop
  | nil (column : Nat) : TypesetBelow column [] []
  | cons {column : Nat} {form : Form} {rest : List Form} {first others : List Stroke} :
      Typeset column form first → TypesetBelow column rest others →
        TypesetBelow column (form :: rest) (.separator :: .indent column :: (first ++ others))

end

/-- Whether a form is printed on one line at `column`. Only a list with items can be too wide. -/
def Form.Fits (width : Text → Nat) (limit column : Nat) : Form → Prop
  | .atom _ | .string _ | .list [] => True
  | .list (head :: rest) => column + width (Form.list (head :: rest)).flat ≤ limit

/-! ### Lines -/

/-- The line behind a stroke. -/
def Stroke.extend (line : Text) : Stroke → Text
  | .separator => []
  | stroke => line ++ stroke.text

/-- What stands behind the last separator of a row of strokes, or behind its beginning. -/
def lineSoFar (strokes : List Stroke) : Text := strokes.foldl Stroke.extend []

/-- A line that takes `column` characters, all of them spaces and opening parentheses. -/
def Leads (line : Text) (column : Nat) : Prop :=
  line.length = column ∧ ∀ c ∈ line, c = ' ' ∨ c = '('

theorem leads_nil : Leads [] 0 := ⟨rfl, List.forall_mem_nil _⟩

theorem leads_replicate (column : Nat) : Leads (List.replicate column ' ') column :=
  ⟨List.length_replicate, fun _ hc => .inl (List.eq_of_mem_replicate hc)⟩

theorem Leads.opening {line : Text} {column : Nat} (h : Leads line column) :
    Leads (line ++ ['(']) (column + 1) := by
  refine ⟨by simp [h.1], ?_⟩
  intro c hc
  rcases List.mem_append.mp hc with hc | hc
  · exact h.2 c hc
  · exact .inr (List.mem_singleton.mp hc)

section Printed

variable (width : Text → Nat) (limit : Nat)

/-- What has to hold of a stroke that is written behind `line`: a form begins where it is to begin,
and is on one line if it fits there. -/
def Stroke.Follows (line : Text) : Stroke → Prop
  | .whole column form => Leads line column ∧ form.Fits width limit column
  | .opening column items => Leads line column ∧ ¬ (Form.list items).Fits width limit column
  | .closing | .separator | .indent _ => True

/-- What has to hold of strokes that are written behind `line`. -/
def AllFollow : Text → List Stroke → Prop
  | _, [] => True
  | line, stroke :: rest => stroke.Follows width limit line ∧ AllFollow (stroke.extend line) rest

variable {width limit}

theorem allFollow_append {line : Text} {a b : List Stroke} :
    AllFollow width limit line (a ++ b) ↔
      AllFollow width limit line a ∧ AllFollow width limit (a.foldl Stroke.extend line) b := by
  induction a generalizing line with
  | nil => exact (and_iff_right trivial).symm
  | cons stroke rest ih =>
    rw [List.cons_append, AllFollow, AllFollow, ih, List.foldl_cons, and_assoc]

/-- Each of the strokes follows what stands on its line before it. -/
theorem AllFollow.follows {before after : List Stroke} {stroke : Stroke}
    (h : AllFollow width limit [] (before ++ stroke :: after)) :
    stroke.Follows width limit (lineSoFar before) :=
  (allFollow_append.mp h).2.1

/-! ### Printed forms -/

/-- A form that is printed on one line is set as one stroke. -/
theorem exists_typeset_of_fits {column : Nat} {form : Form} (hfits : form.Fits width limit column)
    (hflat : form.layout width limit column = form.flat) :
    ∃ strokes, Typeset column form strokes ∧ form.layout width limit column = textOf strokes ∧
      ∀ line, Leads line column → AllFollow width limit line strokes := by
  refine ⟨_, .whole column form, ?_, fun _ hline => ⟨⟨hline, hfits⟩, trivial⟩⟩
  rw [hflat, textOf_cons, textOf_nil, List.append_nil, Stroke.text]

variable (width limit)

mutual

/-- A form that is printed at the column where it begins is set there, and so is every form in it,
down to those that are on one line. -/
theorem exists_typeset_layout (column : Nat) :
    (form : Form) → ∃ strokes, Typeset column form strokes ∧
      form.layout width limit column = textOf strokes ∧
      ∀ line, Leads line column → AllFollow width limit line strokes
  | .atom _ => exists_typeset_of_fits trivial rfl
  | .string _ => exists_typeset_of_fits trivial rfl
  | .list [] => exists_typeset_of_fits trivial rfl
  | .list (head :: rest) => by
    by_cases hfits : column + width (Form.list (head :: rest)).flat ≤ limit
    · exact exists_typeset_of_fits hfits (by rw [Form.layout, if_pos hfits])
    · obtain ⟨first, hfirst, hfirstText, hfirstLines⟩ := exists_typeset_layout (column + 1) head
      obtain ⟨others, hothers, hothersText, hothersLines⟩ :=
        exists_typeset_layoutBelow (column + 2) rest
      refine ⟨_, .broken hfirst hothers, ?_, ?_⟩
      · rw [Form.layout, if_neg hfits, hfirstText, hothersText]
        simp [Stroke.text]
      · intro line hline
        refine ⟨⟨hline, hfits⟩, allFollow_append.mpr ⟨hfirstLines _ hline.opening, ?_⟩⟩
        exact allFollow_append.mpr ⟨hothersLines _, trivial, trivial⟩

/-- Forms that are printed on lines of their own are set there, whatever line was before. -/
theorem exists_typeset_layoutBelow (column : Nat) :
    (forms : List Form) → ∃ strokes, TypesetBelow column forms strokes ∧
      layoutBelow width limit column forms = textOf strokes ∧
      ∀ line, AllFollow width limit line strokes
  | [] => ⟨[], .nil column, rfl, fun _ => trivial⟩
  | form :: rest => by
    obtain ⟨first, hfirst, hfirstText, hfirstLines⟩ := exists_typeset_layout column form
    obtain ⟨others, hothers, hothersText, hothersLines⟩ := exists_typeset_layoutBelow column rest
    refine ⟨_, .cons hfirst hothers, ?_, ?_⟩
    · rw [layoutBelow, hfirstText, hothersText]
      simp [Stroke.text]
    · intro line
      refine ⟨trivial, trivial, allFollow_append.mpr ⟨hfirstLines _ ?_, hothersLines _⟩⟩
      exact leads_replicate column

end

/-- The forms of a program are set at the beginnings of lines. -/
theorem exists_typeset_printProgram (forms : List Form) :
    ∃ rows : List (List Stroke), List.Forall₂ (Typeset 0) forms rows ∧
      printProgram width limit forms = textOf (rows.flatMap (· ++ [.separator])) ∧
      AllFollow width limit [] (rows.flatMap (· ++ [.separator])) := by
  induction forms with
  | nil => exact ⟨[], .nil, rfl, trivial⟩
  | cons form rest ih =>
    obtain ⟨row, hrow, hrowText, hrowLines⟩ := exists_typeset_layout width limit 0 form
    obtain ⟨rows, hrows, hrowsText, hrowsLines⟩ := ih
    refine ⟨row :: rows, .cons hrow hrows, ?_, ?_⟩
    · rw [printProgram, List.flatMap_cons, List.flatMap_cons, textOf_append, ← hrowsText, hrowText,
        textOf_append]
      rfl
    · rw [List.flatMap_cons, allFollow_append, allFollow_append, List.foldl_append]
      exact ⟨⟨hrowLines [] leads_nil, trivial, trivial⟩, hrowsLines⟩

end Printed

/-- Layout goes by the columns at which forms really begin. A printed program is nothing but its
forms in a row, each set at the beginning of a line and ended by a line feed. In however many broken
lists a form is, it begins behind as many spaces and opening parentheses as its column says. If it
is on one line, it fits there; if it is a list that is broken, it does not fit. -/
theorem printProgram_typeset (width : Text → Nat) (limit : Nat) (forms : List Form) :
    ∃ rows : List (List Stroke), List.Forall₂ (Typeset 0) forms rows ∧
      printProgram width limit forms = textOf (rows.flatMap (· ++ [.separator])) ∧
      (∀ before column form after,
        rows.flatMap (· ++ [.separator]) = before ++ .whole column form :: after →
          Leads (lineSoFar before) column ∧ form.Fits width limit column) ∧
      ∀ before column items after,
        rows.flatMap (· ++ [.separator]) = before ++ .opening column items :: after →
          Leads (lineSoFar before) column ∧ ¬ (Form.list items).Fits width limit column := by
  obtain ⟨rows, hrows, htext, hfollow⟩ := exists_typeset_printProgram width limit forms
  refine ⟨rows, hrows, htext, ?_, ?_⟩
  · intro before column form after hsplit
    rw [hsplit] at hfollow
    exact hfollow.follows
  · intro before column items after hsplit
    rw [hsplit] at hfollow
    exact hfollow.follows

example : printProgram List.length 9 [.list [.atom "f".toList,
      .list [.string "a\nb\nc".toList, .atom "x".toList], .atom "y".toList]] =
    "(f\n  (\"a\nb\nc\"\n    x)\n  y)\n".toList := by decide

end GoldenFiles.Sexp
