import GoldenFiles.Text.LineBreak

/-!
# Wrapping lines

A text is filled into lines of a number of columns. A line is broken as late as possible, and only
where the classes of the characters allow it, inside a compound behind a hyphen, and, in a word that
is longer than a line, wherever the line is full. The spaces at a break are dropped. Line feeds in
the text stay line breaks.

## Main definitions

* `Word` — characters that stay together, and the spaces behind them
* `words` — the words of a line
* `fill` — a text in lines, each behind an indent
-/

namespace GoldenFiles.Text

namespace Wrap

open LineBreak (BreakClass breakable)

/-- Characters that stay together, and the number of spaces behind them. -/
structure Word where
  text : Text
  spaces : Nat := 0
  deriving DecidableEq, Repr

/-- The columns of a single character. Control characters take none. -/
def charColumns (c : Char) : Nat :=
  if c.toNat < 0x20 || (0x7F ≤ c.toNat && c.toNat < 0xA0) then 0 else (Width.ofChar c).1

/-- The columns of characters, each taken alone. -/
def columns (text : Text) : Nat := text.foldr (charColumns · + ·) 0

/-! ### Words -/

/-- The marked characters without the last mark, if there is one. -/
def withoutLastMark : List (Char × Bool) → List (Char × Bool)
  | [] => []
  | (c, mark) :: rest =>
    if rest.any (·.2) then (c, mark) :: withoutLastMark rest else (c, false) :: rest

/-- Hyphens, seen and hidden ones, break no line by themselves. -/
def isHyphen (c : Char) : Bool := c = '-' || c.toNat = 0xAD

/-- The characters of a line without the marks behind hyphens, given the character before it. -/
def unmarkedHyphens (before : Option Char) : List (Char × Bool) → List (Char × Bool)
  | [] => []
  | (c, mark) :: rest => (c, mark && !before.any isHyphen) :: unmarkedHyphens (some c) rest

/-- The characters of a line, with marks where stretches begin. A line that ends in a hyphen is not
broken at the last place where it could be. -/
def marked (line : Text) : List (Char × Bool) :=
  let places := unmarkedHyphens none (breakable {} line)
  if line.getLast?.any isHyphen then withoutLastMark places else places

/-- The stretches that begin at marked characters. -/
def stretches : List (Char × Bool) → List Text
  | [] => []
  | (c, _) :: rest =>
    match stretches rest with
    | [] => [[c]]
    | stretch :: others =>
      if rest.head?.any (·.2) then [c] :: stretch :: others else (c :: stretch) :: others

/-- A stretch with the spaces at its end taken apart. -/
def Word.ofStretch (stretch : Text) : Word :=
  let text := (stretch.reverse.dropWhile (· = ' ')).reverse
  ⟨text, stretch.length - text.length⟩

/-- Whether a character is a letter or a digit of some script. -/
def isWordChar (c : Char) : Bool :=
  c.isAlphanum ||
    (0x80 ≤ c.toNat &&
      let k := BreakClass.of c
      k.isLetter || k = .number || k = .ideograph || k = .nonstarter || k.isHangul)

/-- A word in the parts that end in hyphens between letters or digits, given the character before
it. -/
def compounds (before : Option Char) : Text → List Text
  | [] => [[]]
  | c :: rest =>
    match compounds (some c) rest with
    | [] => [[c]]
    | part :: others =>
      if c = '-' && before.any isWordChar && rest.head?.any isWordChar then
        [c] :: part :: others
      else
        (c :: part) :: others

/-- Breaks characters into stretches of at most `limit` columns; so many are taken already. -/
def breakApart (limit taken : Nat) : Text → List Text
  | [] => [[]]
  | c :: rest =>
    if 0 < taken ∧ limit < taken + charColumns c then
      match breakApart limit (charColumns c) rest with
      | [] => [[], [c]]
      | piece :: others => [] :: (c :: piece) :: others
    else
      match breakApart limit (taken + charColumns c) rest with
      | [] => [[c]]
      | piece :: others => (c :: piece) :: others

/-- A row of parts as words, with spaces behind the last one. -/
def ofParts (spaces : Nat) : List Text → List Word
  | [] => []
  | [part] => [⟨part, spaces⟩]
  | part :: rest => ⟨part, 0⟩ :: ofParts spaces rest

/-- The parts of a compound word. -/
def Word.parts (word : Word) : List Word := ofParts word.spaces (compounds none word.text)

/-- A word in parts that fit into a line. -/
def Word.fitting (limit : Nat) (word : Word) : List Word :=
  if columns word.text ≤ limit then [word]
  else ofParts word.spaces (breakApart limit 0 word.text)

/-- The words of a line, all of which fit into a line. -/
def words (limit : Nat) (line : Text) : List Word :=
  (((stretches (marked line)).map .ofStretch).flatMap Word.parts).flatMap (·.fitting limit)

/-! ### Lines -/

/-- Words in a row, without the spaces behind the last one. -/
def joined : List Word → Text
  | [] => []
  | [word] => word.text
  | word :: rest => word.text ++ List.replicate word.spaces ' ' ++ joined rest

/-- Fills words into lines of `limit` columns; `line` has been begun and takes `taken` columns. -/
def fillWords (limit : Nat) (line : List Word) (taken : Nat) : List Word → List Text
  | [] => [joined line]
  | word :: rest =>
    -- Spaces at the end of the line count for the next word and not for the last one.
    if line ≠ [] ∧ limit < taken + columns word.text then
      joined line :: fillWords limit [word] (columns word.text + word.spaces) rest
    else
      fillWords limit (line ++ [word]) (taken + columns word.text + word.spaces) rest

end Wrap

/-- A text in lines of `limit` columns. Every line stands behind an indent, the first one behind
`first` and the others behind `next`, which take equally many columns. -/
def fill (limit : Nat) (first next : Text) (text : Text) : Text :=
  let room := limit - Wrap.columns first
  let lines := (pieces text).flatMap fun piece =>
    Wrap.fillWords room [⟨[], 0⟩] 0 (Wrap.words room piece)
  match lines with
  | [] => first
  | line :: rest => unpieces ((first ++ line) :: rest.map (next ++ ·))

end GoldenFiles.Text
