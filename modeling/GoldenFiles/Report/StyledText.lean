import GoldenFiles.Text

/-!
# Styled text

Text in pieces, some of them coloured. It can be written with or without its colours; with them, a
coloured piece stands between the sequence that sets its colour and the sequence that resets it.

## Main definitions

* `Colour`, `Piece` — a piece of text and its colour
* `StyledText` — pieces in a row
* `StyledText.render` — the text that is written
-/

namespace GoldenFiles

/-- The colours of a report. -/
inductive Colour | red | green | cyan | white
  deriving DecidableEq, Repr

/-- The digit that stands for a colour. -/
def Colour.digit : Colour → Char
  | .red => '1'
  | .green => '2'
  | .cyan => '6'
  | .white => '7'

/-- A piece of text, coloured or not. -/
structure Piece where
  colour : Option Colour
  text : Text
  deriving DecidableEq, Repr

/-- A row of pieces. -/
abbrev StyledText := List Piece

/-- What resets all colour. -/
def resetSequence : Text := "\x1b[0m".toList

/-- What sets a colour, after a reset. -/
def Colour.sequence (colour : Colour) : Text :=
  resetSequence ++ "\x1b[3".toList ++ [colour.digit, 'm']

/-- The text written for a piece. -/
def Piece.render (coloured : Bool) (piece : Piece) : Text :=
  match piece.colour with
  | some colour =>
    if coloured then colour.sequence ++ piece.text ++ resetSequence else piece.text
  | none => piece.text

/-- The text written for pieces in a row. -/
def StyledText.render (coloured : Bool) (text : StyledText) : Text :=
  text.flatMap (Piece.render coloured)

theorem StyledText.render_append (coloured : Bool) (text more : StyledText) :
    (text ++ more).render coloured = text.render coloured ++ more.render coloured :=
  List.flatMap_append

end GoldenFiles
