import GoldenFiles.Text.LineBreak.Tables
import GoldenFiles.Text.Width

/-!
# Where a line may be broken

Whether a line may be broken between two characters follows from the classes of the characters
around that place. Marks count with the character before them; spaces stay on the line that they
end, and behind spaces a line may be broken unless the next character belongs to what is before the
spaces.

## Main definitions

* `BreakClass`, `BreakClass.of` — the classes of characters
* `BreakContext` — what has been read of a line
* `mayBreak` — whether a line may be broken before a character
* `breakable` — a line with a note before which characters it may be broken
-/

namespace GoldenFiles.Text.LineBreak

open Width (memberOf within isRegionalIndicator isEmojiModifier)

/-! ### Classes -/

/-- Classes of characters that behave alike where lines are broken. -/
inductive BreakClass
  | lineEnd | space | zeroWidthSpace | wordJoiner | joiner | mark | glue
  | breakBehind | breakAhead | hyphen | dash | contingent
  | opening | wideOpening | closing | closingParenthesis | exclamation | separator | solidus
  | quotation | nonstarter | inseparable
  | letter | hebrewLetter | number | beforeNumber | behindNumber
  | ideograph | emojiBase | emojiModifier | regionalIndicator
  | leadingJamo | vowelJamo | trailingJamo | openSyllable | closedSyllable
  deriving DecidableEq, Repr

namespace BreakClass

/-- The classes that have few characters or such as can be told by rule. -/
def ofFew? (c : Char) : Option BreakClass :=
  let n := c.toNat
  if c = ' ' then some .space
  else if c = '-' then some .hyphen
  else if c = '/' then some .solidus
  else if c = ')' || c = ']' then some .closingParenthesis
  else if within 0xA 0xD c || n = 0x85 || n = 0x2028 || n = 0x2029 then some .lineEnd
  else if n = 0x200B then some .zeroWidthSpace
  else if n = 0x200D then some .joiner
  else if n = 0x2060 || n = 0xFEFF then some .wordJoiner
  else if n = 0x2014 || n = 0x2E3A || n = 0x2E3B then some .dash
  else if n = 0xFFFC then some .contingent
  else if within 0x1100 0x115F c || within 0xA960 0xA97C c then some .leadingJamo
  else if within 0x1160 0x11A7 c || within 0xD7B0 0xD7C6 c then some .vowelJamo
  else if within 0x11A8 0x11FF c || within 0xD7CB 0xD7FB c then some .trailingJamo
  else if within 0xAC00 0xD7A3 c then
    some (if (n - 0xAC00) % 28 = 0 then .openSyllable else .closedSyllable)
  else if isRegionalIndicator c then some .regionalIndicator
  else if isEmojiModifier c then some .emojiModifier
  else none

/-- The classes that are told by tables, with their tables. -/
def tables : List (List Width.CodeRange × BreakClass) :=
  [(numberTable, .number), (separatorTable, .separator), (exclamationTable, .exclamation),
   (quotationTable, .quotation), (openingTable, .opening), (closingTable, .closing),
   (beforeNumberTable, .beforeNumber), (behindNumberTable, .behindNumber),
   (breakBehindTable, .breakBehind), (breakAheadTable, .breakAhead), (glueTable, .glue),
   (inseparableTable, .inseparable), (nonstarterTable, .nonstarter),
   (hebrewLetterTable, .hebrewLetter), (emojiBaseTable, .emojiBase), (ideographTable, .ideograph),
   (markTable, .mark)]

/-- The class of a character. -/
def of (c : Char) : BreakClass :=
  if c.isAlpha then
    .letter
  else
    match ofFew? c with
    | some known => known
    | none =>
      match tables.find? fun table => memberOf table.1 c with
      | some (_, .opening) =>
        if (Width.ofChar c).1 = 2 || c.toNat = 0xFF62 then .wideOpening else .opening
      | some (_, known) => known
      | none => .letter

/-- Letters of any script. -/
def isLetter (k : BreakClass) : Bool := k = .letter || k = .hebrewLetter

/-- Ideographs, and emoji that behave like them. -/
def isIdeographic (k : BreakClass) : Bool :=
  k = .ideograph || k = .emojiBase || k = .emojiModifier

/-- Syllables of Hangul and their parts. -/
def isHangul (k : BreakClass) : Bool :=
  k = .leadingJamo || k = .vowelJamo || k = .trailingJamo || k = .openSyllable ||
    k = .closedSyllable

/-- Opening brackets. -/
def isOpening (k : BreakClass) : Bool := k = .opening || k = .wideOpening

/-- Closing brackets. -/
def isClosing (k : BreakClass) : Bool := k = .closing || k = .closingParenthesis

/-- Signs of a quantity. -/
def isSign (k : BreakClass) : Bool := k = .beforeNumber || k = .behindNumber

/-- Characters that never begin a line, not even behind spaces. -/
def staysBehindSpaces (k : BreakClass) : Bool :=
  k.isClosing || k = .exclamation || k = .separator || k = .solidus || k = .wordJoiner

/-- Whether the parts of a number, or a word and a number, stay together. -/
def joinsNumber (before behind : BreakClass) : Bool :=
  (before.isLetter && (behind = .number || behind.isSign)) ||
    ((before = .number || before.isSign) && behind.isLetter) ||
    (before = .beforeNumber && behind.isIdeographic) ||
    (before.isIdeographic && behind = .behindNumber) ||
    ((before.isClosing || before = .number) && behind.isSign) ||
    (before.isSign && behind.isOpening) ||
    ((before.isSign || before = .hyphen || before = .separator || before = .number ||
      before = .solidus) && behind = .number)

/-- Whether parts of a syllable, or a syllable and a sign of a quantity, stay together. -/
def joinsSyllable (before behind : BreakClass) : Bool :=
  (before = .leadingJamo &&
      (behind = .leadingJamo || behind = .vowelJamo || behind = .openSyllable ||
        behind = .closedSyllable)) ||
    ((before = .vowelJamo || before = .openSyllable) &&
      (behind = .vowelJamo || behind = .trailingJamo)) ||
    ((before = .trailingJamo || before = .closedSyllable) && behind = .trailingJamo) ||
    (before.isHangul && behind = .behindNumber) ||
    (before = .beforeNumber && behind.isHangul)

/-- Whether the parts of a word, with the brackets in it, stay together. -/
def joinsWord (before behind : BreakClass) : Bool :=
  ((before.isLetter || before = .separator) && behind.isLetter) ||
    ((before.isLetter || before = .number) && behind = .opening) ||
    (before = .closingParenthesis && (behind.isLetter || behind = .number)) ||
    (before = .emojiBase && behind = .emojiModifier)

end BreakClass

/-! ### Places -/

/-- What has been read of a line. -/
structure BreakContext where
  /-- The class of the last character that is neither a space nor a mark on another one. -/
  last : Option BreakClass := none
  /-- Whether spaces have followed it. -/
  spaced : Bool := false
  /-- Whether the very last character is a joiner. -/
  joined : Bool := false
  /-- Whether the last character is a hyphen, or the like, behind a letter of Hebrew. -/
  hebrewHyphen : Bool := false
  /-- Whether the last character is a regional indicator that is still alone. -/
  loneIndicator : Bool := false
  deriving DecidableEq, Repr

/-- The class that a character has behind what has been read: none for a mark on the character
before it. -/
def BreakContext.classOf (context : BreakContext) (c : Char) : Option BreakClass :=
  let k := BreakClass.of c
  if k = .mark ∨ k = .joiner then
    match context.last with
    | none | some .lineEnd | some .zeroWidthSpace => some .letter
    | some _ => if context.spaced then some .letter else none
  else
    some k

/-- Whether a line may be broken between two neighbours. -/
def mayBreakBetween (context : BreakContext) (before behind : BreakClass) : Bool :=
  if before = .wordJoiner || before = .glue then false
  else if behind = .glue && before != .breakBehind && before != .hyphen then false
  else if before = .quotation || behind = .quotation then false
  else if before = .contingent || behind = .contingent then true
  else
    !(behind = .breakBehind || behind = .hyphen || behind = .nonstarter || before = .breakAhead ||
      context.hebrewHyphen || (before = .solidus && behind = .hebrewLetter) ||
      behind = .inseparable || before.joinsNumber behind || before.joinsSyllable behind ||
      before.joinsWord behind || (behind = .regionalIndicator && context.loneIndicator))

/-- Whether a line may be broken before a character. -/
def mayBreak (context : BreakContext) (c : Char) : Bool :=
  match context.last with
  | some .lineEnd => true
  | last =>
    match context.classOf c with
    | none => false
    | some k =>
      if k = .lineEnd || k = .space || k = .zeroWidthSpace then false
      else if last = some .zeroWidthSpace then true
      else if context.joined || k.staysBehindSpaces then false
      else
        match last with
        | none => context.spaced
        | some before =>
          if before.isOpening || (before = .quotation && k.isOpening) ||
              (before.isClosing && k = .nonstarter) || (before = .dash && k = .dash) then
            false
          else if context.spaced then
            true
          else
            mayBreakBetween context before k

/-- What has been read, with another character. -/
def BreakContext.push (context : BreakContext) (c : Char) : BreakContext :=
  let joined := BreakClass.of c = .joiner
  match context.classOf c with
  | none => { context with joined := joined }
  | some .space =>
    { last := if context.last = some .lineEnd then none else context.last, spaced := true }
  | some k =>
    let alone := !context.spaced
    { last := some k
      joined := joined
      hebrewHyphen :=
        alone && context.last = some .hebrewLetter && (k = .hyphen || k = .breakBehind)
      loneIndicator := k = .regionalIndicator && !(alone && context.loneIndicator) }

/-- The characters of a line, each with a note whether the line may be broken before it. -/
def breakable (context : BreakContext) : Text → List (Char × Bool)
  | [] => []
  | c :: rest => (c, mayBreak context c) :: breakable (context.push c) rest

end GoldenFiles.Text.LineBreak
