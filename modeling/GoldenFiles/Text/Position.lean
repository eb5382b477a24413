import GoldenFiles.Text

/-!
# Positions in a text

A position is a line and a column, both counted from one. Only a line feed starts a new line, so a
carriage return before it is one more column of the line it ends: a pair of the two is one break,
and a carriage return alone is a column.

## Main definitions

* `Position` — line and column
* `Position.advance` — the position behind one character
* `Position.after` — the position behind a whole text
* `Located` — a value with the place where it begins
-/

namespace GoldenFiles

/-- A place in a text, lines and columns counted from one. -/
structure Position where
  line : Nat
  column : Nat
  deriving DecidableEq, Repr

namespace Position

/-- The first place of every text. -/
def start : Position := ⟨1, 1⟩

/-- The place behind a character that stands here. -/
def advance (p : Position) (c : Char) : Position :=
  if c = '\n' then ⟨p.line + 1, 1⟩ else ⟨p.line, p.column + 1⟩

/-- The place behind a text that starts here. -/
def after (p : Position) (text : Text) : Position := text.foldl advance p

@[simp] theorem after_nil (p : Position) : p.after [] = p := rfl

@[simp] theorem after_cons (p : Position) (c : Char) (text : Text) :
    p.after (c :: text) = (p.advance c).after text := rfl

@[simp] theorem after_append (p : Position) (a b : Text) :
    p.after (a ++ b) = (p.after a).after b := List.foldl_append

end Position

/-- A value and the place in a text where it begins. -/
structure Located (α : Type) where
  position : Position
  value : α
  deriving DecidableEq, Repr

end GoldenFiles
