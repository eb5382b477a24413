/-!
# Texts

A text is the list of its characters, so that statements about texts go by induction on them.
Lines are what stands between line feeds: `Text.pieces` takes a text apart at them and
`Text.unpieces` puts it together again.

## Main definitions

* `Text` — a list of characters
* `Text.pieces`, `Text.unpieces` — the pieces of a text between its line feeds
* `Text.stripSuffix?` — what stands before a given ending
* `Text.ofNat` — a number in decimal
-/

namespace GoldenFiles

/-- A text: its characters in order. -/
abbrev Text := List Char

namespace Text

/-- The pieces between line feeds, the last one being what follows the last line feed. There is
always at least one piece. -/
def pieces : Text → List Text
  | [] => [[]]
  | c :: rest =>
    if c = '\n' then
      [] :: pieces rest
    else
      match pieces rest with
      | [] => [[c]]
      | piece :: others => (c :: piece) :: others

/-- Pieces joined by line feeds. -/
def unpieces (lines : List Text) : Text := ['\n'].intercalate lines

/-- Joins texts with a single space between neighbours. -/
def unwords (words : List Text) : Text := [' '].intercalate words

/-- What stands before `suffix`, for a text that ends in it. -/
def stripSuffix? (suffix text : Text) : Option Text :=
  if suffix.isSuffixOf text then some (text.take (text.length - suffix.length)) else none

/-- What follows the last occurrence of `mark`, if there is one. -/
def afterLast? (mark : Char) (text : Text) : Option Text :=
  if mark ∈ text then some (text.reverse.takeWhile (· ≠ mark)).reverse else none

/-- A number in decimal. -/
def ofNat (n : Nat) : Text := Nat.toDigits 10 n

/-! ### Small facts -/

theorem pieces_ne_nil (text : Text) : pieces text ≠ [] := by
  cases text with
  | nil => simp [pieces]
  | cons c rest =>
    unfold pieces
    split
    · simp
    · split <;> simp

@[simp] theorem pieces_nil : pieces [] = [[]] := rfl

@[simp] theorem pieces_lineFeed (rest : Text) : pieces ('\n' :: rest) = [] :: pieces rest := by
  simp [pieces]

/-- Joining the pieces gives the text back. -/
theorem unpieces_pieces (text : Text) : unpieces (pieces text) = text := by
  induction text with
  | nil => rfl
  | cons c rest ih =>
    unfold pieces
    cases h : pieces rest with
    | nil => exact absurd h (pieces_ne_nil rest)
    | cons piece others =>
      rw [h] at ih
      subst ih
      split
      · next hc => simp [unpieces, List.intercalate, List.intersperse, hc]
      · cases others <;> simp [unpieces, List.intercalate, List.intersperse]

end Text

end GoldenFiles
