import GoldenFiles.Sexp.Token

/-!
# Forms

A program is a list of forms: atoms, string literals and lists. The tokens of a form, with a list's
parentheses around its items, are a second view of it, and `build?` reads that view back.

## Main definitions

* `Form` — atoms, string literals, lists
* `Form.tokens`, `tokensOf` — the tokens of a form and of a program
* `Form.WellFormed` — every atom and every body in it can be written
* `build?` — the program with given tokens

## Main results

* `build?_tokensOf` — the tokens of a program say which program it is
-/

namespace GoldenFiles.Sexp

/-- A form of a program. The body of a string literal is kept as written, escapes included. -/
inductive Form
  | atom (text : Text)
  | string (body : Text)
  | list (items : List Form)
  deriving Repr

/-! ### Tokens -/

mutual

/-- The tokens of a form. -/
def Form.tokens : Form → List Token
  | .atom text => [.atom text]
  | .string body => [.string body]
  | .list items => .opening :: (tokensOf items ++ [.closing])

/-- The tokens of forms that follow each other. -/
def tokensOf : List Form → List Token
  | [] => []
  | form :: rest => form.tokens ++ tokensOf rest

end

mutual

/-- Every atom and every string body of the form can be written as it is. -/
def Form.WellFormed : Form → Prop
  | .atom text => ValidAtom text
  | .string body => validBody body = true
  | .list items => AllWellFormed items

/-- All of the forms are well-formed. -/
def AllWellFormed : List Form → Prop
  | [] => True
  | form :: rest => form.WellFormed ∧ AllWellFormed rest

end

@[simp] theorem tokensOf_append (a b : List Form) :
    tokensOf (a ++ b) = tokensOf a ++ tokensOf b := by
  induction a with
  | nil => rfl
  | cons form rest ih => simp [tokensOf, ih]

/-! ### Building forms -/

/-- Forms that are being read: the items so far of every list still open, innermost list first,
above the complete forms of the program. Items and forms are kept latest first. -/
structure Nest where
  opened : List (List Form)
  complete : List Form

namespace Nest

/-- Nothing has been read. -/
def empty : Nest := ⟨[], []⟩

/-- Adds a form to the innermost open list, or to the program where no list is open. -/
def add (form : Form) : Nest → Nest
  | ⟨[], complete⟩ => ⟨[], form :: complete⟩
  | ⟨items :: outer, complete⟩ => ⟨(form :: items) :: outer, complete⟩

/-- Opens a list. -/
def push (nest : Nest) : Nest := ⟨[] :: nest.opened, nest.complete⟩

/-- Closes the innermost open list, if there is one. -/
def pop? : Nest → Option Nest
  | ⟨[], _⟩ => none
  | ⟨items :: outer, complete⟩ => some (add (.list items.reverse) ⟨outer, complete⟩)

/-- One token of a program. -/
def read? (nest : Nest) : Token → Option Nest
  | .opening => some nest.push
  | .closing => nest.pop?
  | .atom text => some (nest.add (.atom text))
  | .string body => some (nest.add (.string body))

end Nest

/-- The program with the given tokens, if their parentheses balance. -/
def build? (tokens : List Token) : Option (List Form) :=
  match tokens.foldlM Nest.read? Nest.empty with
  | some ⟨[], complete⟩ => some complete.reverse
  | _ => none

/-! ### Building what has been taken apart -/

namespace Nest

/-- Adds forms in their order. -/
def addAll (forms : List Form) (nest : Nest) : Nest :=
  forms.foldl (fun nest form => nest.add form) nest

theorem addAll_cons (form : Form) (rest : List Form) (nest : Nest) :
    nest.addAll (form :: rest) = (nest.add form).addAll rest := rfl

theorem addAll_opened (forms items : List Form) (outer : List (List Form)) (complete : List Form) :
    addAll forms ⟨items :: outer, complete⟩ = ⟨(forms.reverse ++ items) :: outer, complete⟩ := by
  induction forms generalizing items with
  | nil => rfl
  | cons form rest ih => rw [addAll_cons, add, ih, List.reverse_cons, List.append_assoc]; rfl

theorem addAll_closed (forms complete : List Form) :
    addAll forms ⟨[], complete⟩ = ⟨[], forms.reverse ++ complete⟩ := by
  induction forms generalizing complete with
  | nil => rfl
  | cons form rest ih => rw [addAll_cons, add, ih, List.reverse_cons, List.append_assoc]; rfl

/-- The items of a list that has been opened become the list when it is closed. -/
theorem pop?_addAll_push (items : List Form) (nest : Nest) :
    (nest.push.addAll items).pop? = some (nest.add (.list items)) := by
  rw [push, addAll_opened, pop?, List.append_nil, List.reverse_reverse]

end Nest

mutual

theorem Form.foldlM_tokens (nest : Nest) :
    (form : Form) → form.tokens.foldlM Nest.read? nest = some (nest.add form)
  | .atom _ => rfl
  | .string _ => rfl
  | .list items => by
    rw [Form.tokens, List.foldlM_cons, Nest.read?, Option.bind_eq_bind, Option.bind_some,
      List.foldlM_append, foldlM_tokensOf nest.push items, Option.bind_eq_bind, Option.bind_some,
      List.foldlM_cons, Nest.read?, Nest.pop?_addAll_push]
    rfl

/-- Reading the tokens of forms adds the forms. -/
theorem foldlM_tokensOf (nest : Nest) :
    (forms : List Form) → (tokensOf forms).foldlM Nest.read? nest = some (nest.addAll forms)
  | [] => rfl
  | form :: rest => by
    rw [tokensOf, List.foldlM_append, form.foldlM_tokens, Option.bind_eq_bind, Option.bind_some,
      foldlM_tokensOf (nest.add form) rest, Nest.addAll_cons]

end

/-- The tokens of a program say which program it is. -/
theorem build?_tokensOf (forms : List Form) : build? (tokensOf forms) = some forms := by
  rw [build?, foldlM_tokensOf, Nest.empty, Nest.addAll_closed]
  simp

theorem tokensOf_injective {a b : List Form} (h : tokensOf a = tokensOf b) : a = b :=
  Option.some_inj.mp
    ((build?_tokensOf a).symm.trans ((congrArg build? h).trans (build?_tokensOf b)))

end GoldenFiles.Sexp
