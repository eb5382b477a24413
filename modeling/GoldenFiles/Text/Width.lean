import GoldenFiles.Text.Width.Tables

/-!
# Display width

The number of columns a text takes on a terminal with fixed-width cells. Most characters take as
many columns as their class says: none for marks that combine with their neighbour, two for wide
ones, one otherwise. A text is not always as wide as its characters taken alone, because some
sequences are drawn as one glyph: a carriage return before a line feed, emoji with selectors,
modifiers, joiners, keycaps, tags and flags, and a few ligatures of Arabic, Buginese, Hebrew, Khmer,
Kirat Rai, Lisu, Old Turkic and Tifinagh.

The text is read from its end. What is already known about the characters to the right of the next
one is a `Context`; a character adds columns according to it, possibly a negative number, and leaves
the context for its left neighbour.

## Main definitions

* `Context` — what the characters to the right have in common with a sequence
* `ofChar` — columns of a character that joins no sequence
* `step` — columns of a character in a context
* `displayWidth` — columns of a text
-/

namespace GoldenFiles.Text.Width

/-! ### Contexts -/

/-- A sequence that the characters to the right begin. -/
inductive Sequence
  | none
  | lineFeed
  | emojiModifier
  | regionalIndicator
  | severalRegionalIndicators
  | emoji
  | joinedEmoji
  | joinedKeycap
  | joinedRegionalIndicator
  | evenJoinedRegionalIndicators
  | oddJoinedRegionalIndicators
  | joinedTagEnd
  | joinedTagDigits (count : Nat)
  | joinedTagLetters (count : Nat)
  | quoteSelector
  | arabicAlef
  | hebrewLamed
  | joinedHebrewLamed
  | khmerLetter
  | bugineseYa
  | joinedBugineseYa
  | bugineseVowelJoinedYa
  | tifinaghConsonant
  | joinedTifinaghConsonant
  | tifinaghJoinerConsonant
  | lisuTone
  | oldTurkicI
  | joinedOldTurkicI
  | kiratRaiE
  | kiratRaiAi
  deriving DecidableEq, Repr

/-- The selector that stands to the right of the next character, ignorable marks aside. -/
inductive Selector | none | text | emoji
  deriving DecidableEq, Repr

/-- What is known about the characters to the right of the next one. -/
structure Context where
  sequence : Sequence := .none
  selector : Selector := .none
  deriving DecidableEq, Repr

namespace Sequence

/-- Ligatures that joiners and ignorable marks between their letters leave intact. -/
def passesJoiner : Sequence → Bool
  | hebrewLamed | joinedHebrewLamed | khmerLetter | bugineseYa | joinedBugineseYa
  | bugineseVowelJoinedYa | tifinaghConsonant | joinedTifinaghConsonant | tifinaghJoinerConsonant
  | lisuTone | oldTurkicI | joinedOldTurkicI | kiratRaiE | kiratRaiAi => true
  | _ => false

/-- Ligatures that a selector between their letters leaves intact. -/
def isLigature (sequence : Sequence) : Bool := sequence = arabicAlef || sequence.passesJoiner

/-- Sequences that keep an emoji selector in mind. -/
def keepsEmojiSelector : Sequence → Bool
  | joinedEmoji | joinedKeycap => true
  | sequence => sequence.isLigature

/-- The sequence behind a zero-width joiner, inside a ligature. -/
def joined : Sequence → Sequence
  | hebrewLamed => joinedHebrewLamed
  | bugineseYa => joinedBugineseYa
  | tifinaghConsonant => joinedTifinaghConsonant
  | oldTurkicI => joinedOldTurkicI
  | sequence => sequence

end Sequence

/-! ### Characters -/

/-- Whether the code point lies between the two given ones. -/
def within (low high : Nat) (c : Char) : Bool := low ≤ c.toNat && c.toNat ≤ high

/-- Letters at which an Arabic lam-alef ligature can begin. -/
def isArabicLam (c : Char) : Bool :=
  c.toNat = 0x644 || within 0x6B5 0x6B8 c || c.toNat = 0x76A || c.toNat = 0x8A6 || c.toNat = 0x8C7

/-- Letters at which an Arabic lam-alef ligature can end. -/
def isArabicAlef (c : Char) : Bool :=
  within 0x622 0x623 c || c.toNat = 0x625 || c.toNat = 0x627 || within 0x671 0x673 c ||
    c.toNat = 0x675 || within 0x773 0x774 c || within 0x870 0x882 c

/-- Khmer letters that are drawn below the one before them when a sign in between says so. -/
def isKhmerSubscript (c : Char) : Bool :=
  within 0x1780 0x1782 c || within 0x1784 0x1787 c || within 0x1789 0x178C c ||
    within 0x178E 0x1793 c || within 0x1795 0x1798 c || within 0x179B 0x179D c ||
    c.toNat = 0x17A0 || c.toNat = 0x17A2 || c.toNat = 0x17A7 || within 0x17AB 0x17AC c ||
    c.toNat = 0x17AF

/-- Tifinagh consonants. -/
def isTifinaghConsonant (c : Char) : Bool := within 0x2D31 0x2D65 c || c.toNat = 0x2D6F

/-- Regional indicators, which make flags in pairs. -/
def isRegionalIndicator (c : Char) : Bool := within 0x1F1E6 0x1F1FF c

/-- Skin tones. -/
def isEmojiModifier (c : Char) : Bool := within 0x1F3FB 0x1F3FF c

/-- The columns of a character that joins no sequence, and the sequence it may end. -/
def ofChar (c : Char) : Nat × Sequence :=
  if c.toNat ≤ 0xA0 then (1, .none)
  else if isRegionalIndicator c then (1, .regionalIndicator)
  else if isEmojiModifier c then (2, .emojiModifier)
  else if memberOf emojiPresentation c then (2, .emoji)
  else if c.toNat = 0x5DC then (1, .hebrewLamed)
  else if isArabicAlef c then (1, .arabicAlef)
  else if isKhmerSubscript c then (1, .khmerLetter)
  else if c.toNat = 0x17A4 then (2, .none)
  else if c.toNat = 0x17D8 then (3, .none)
  else if c.toNat = 0x1A10 then (1, .bugineseYa)
  else if isTifinaghConsonant c then (1, .tifinaghConsonant)
  else if c.toNat = 0x2D7F then (1, .none)
  else if within 0xA4FC 0xA4FD c then (1, .lisuTone)
  else if c.toNat = 0x10C03 then (1, .oldTurkicI)
  else if c.toNat = 0x16D67 then (1, .kiratRaiE)
  else if c.toNat = 0x16D68 then (1, .kiratRaiAi)
  else if memberOf zeroWidth c then (0, .none)
  else if memberOf wide c then (2, .none)
  else (1, .none)

/-- Characters of no column that cursive joining passes over. -/
def isTransparentToJoining (c : Char) : Bool :=
  (ofChar c).1 = 0 && !memberOf joiningZeroWidthException c

/-! ### Characters in context -/

/-- The columns that a character adds to a sequence it continues, and the sequence it leaves. -/
def continued (sequence : Sequence) (c : Char) : Option (Int × Sequence) :=
  match sequence with
  | .arabicAlef =>
    if isArabicLam c then some (0, .none)
    else if isTransparentToJoining c then some (0, .arabicAlef)
    else none
  | .joinedHebrewLamed => if c.toNat = 0x5D0 then some (0, .none) else none
  | .khmerLetter => if c.toNat = 0x17D2 then some (-1, .none) else none
  | .joinedBugineseYa => if c.toNat = 0x1A17 then some (0, .bugineseVowelJoinedYa) else none
  | .bugineseVowelJoinedYa => if c.toNat = 0x1A15 then some (0, .none) else none
  | .tifinaghConsonant => if c.toNat = 0x2D7F then some (1, .tifinaghJoinerConsonant) else none
  | .joinedTifinaghConsonant =>
    if c.toNat = 0x2D7F then some (1, .tifinaghJoinerConsonant)
    else if isTifinaghConsonant c then some (0, .none)
    else none
  | .tifinaghJoinerConsonant => if isTifinaghConsonant c then some (-1, .none) else none
  | .lisuTone => if within 0xA4F8 0xA4FB c then some (0, .none) else none
  | .joinedOldTurkicI => if c.toNat = 0x10C32 then some (0, .none) else none
  | .emojiModifier =>
    if memberOf emojiModifierBase c then some (0, .emoji)
    else if c.toNat = 0x200D then some (0, .joinedEmoji)
    else none
  | .regionalIndicator =>
    if isRegionalIndicator c then some (1, .severalRegionalIndicators) else none
  | .severalRegionalIndicators =>
    if isRegionalIndicator c then some (1, .severalRegionalIndicators)
    else if c.toNat = 0x200D then some (0, .joinedEmoji)
    else none
  | .emoji => if c.toNat = 0x200D then some (0, .joinedEmoji) else none
  | .joinedEmoji =>
    if c.toNat = 0x20E3 then some (0, .joinedKeycap)
    else if isRegionalIndicator c then some (1, .joinedRegionalIndicator)
    else if isEmojiModifier c then some (0, .emojiModifier)
    else if c.toNat = 0xE007F then some (0, .joinedTagEnd)
    else if memberOf emojiPresentation c then some (0, .emoji)
    else none
  | .joinedRegionalIndicator =>
    if isRegionalIndicator c then some (-1, .evenJoinedRegionalIndicators) else none
  | .evenJoinedRegionalIndicators =>
    if isRegionalIndicator c then some (3, .oddJoinedRegionalIndicators)
    else if c.toNat = 0x200D then some (0, .joinedEmoji)
    else none
  | .oddJoinedRegionalIndicators =>
    if isRegionalIndicator c then some (-1, .evenJoinedRegionalIndicators)
    else if c.toNat = 0x200D then some (0, .joinedEmoji)
    else none
  | .joinedTagEnd =>
    if within 0xE0061 0xE007A c then some (0, .joinedTagLetters 1)
    else if within 0xE0030 0xE0039 c then some (0, .joinedTagDigits 1)
    else none
  | .joinedTagLetters count =>
    if within 0xE0061 0xE007A c && count < 6 then some (0, .joinedTagLetters (count + 1))
    else if within 0xE0030 0xE0039 c && count < 5 then some (0, .joinedTagDigits 1)
    else if c.toNat = 0x1F3F4 && 3 ≤ count then some (0, .emoji)
    else none
  | .joinedTagDigits count =>
    if within 0xE0030 0xE0039 c && count < 3 then some (0, .joinedTagDigits (count + 1))
    else if c.toNat = 0x1F3F4 && count = 3 then some (0, .emoji)
    else none
  | .quoteSelector =>
    if within 0x2018 0x2019 c || within 0x201C 0x201D c then some (2, .none) else none
  | .kiratRaiE =>
    if c.toNat = 0x16D63 then some (0, .none)
    else if c.toNat = 0x16D67 then some (0, .kiratRaiAi)
    else if c.toNat = 0x16D68 then some (1, .kiratRaiE)
    else if c.toNat = 0x16D69 then some (0, .none)
    else none
  | .kiratRaiAi => if c.toNat = 0x16D63 then some (0, .none) else none
  | _ => none

/-- The columns of a character beyond the first 161 code points, in a context without a selector
that applies to it. -/
def inSequence (sequence : Sequence) (c : Char) : Int × Context :=
  if sequence.passesJoiner && c.toNat = 0x200D then (0, { sequence := sequence.joined })
  else if sequence.passesJoiner && memberOf ignorableMark c then (0, { sequence := sequence })
  else
    match continued sequence c with
    | some (columns, next) => (columns, { sequence := next })
    | none => ((ofChar c).1, { sequence := (ofChar c).2 })

/-- The columns of a character that no emoji selector applies to. -/
def withoutEmojiSelector (context : Context) (c : Char) : Int × Context :=
  if c = '\n' then (1, { sequence := .lineFeed })
  else if c = '\r' && context.sequence = .lineFeed then (0, {})
  else if c.toNat ≤ 0xA0 then (1, {})
  else if c.toNat = 0xFE0F then
    (0, { sequence := if context.sequence.keepsEmojiSelector then context.sequence else .none
          selector := .emoji })
  else if c.toNat = 0xFE0E then
    (0, { sequence := if context.sequence.isLigature then context.sequence else .none
          selector := .text })
  else if c.toNat = 0xFE01 && !context.sequence.isLigature then
    (0, { sequence := .quoteSelector })
  else if context.selector = .text && memberOf narrowableEmoji c then (1, {})
  else inSequence context.sequence c

/-- The columns that a character adds to the left of a context, and the context it leaves. -/
def step (context : Context) (c : Char) : Int × Context :=
  if context.selector = .emoji then
    if memberOf emojiVariationBase c then
      let isJoined := context.sequence = .joinedEmoji || context.sequence = .joinedKeycap
      (if isJoined then 0 else 2, { sequence := .emoji })
    else
      withoutEmojiSelector
        { sequence := if context.sequence.isLigature then context.sequence else .none } c
  else withoutEmojiSelector context c

/-- The columns of a text and the context that its characters leave. -/
def fromEnd : Text → Int × Context
  | [] => (0, {})
  | c :: rest =>
    let (columns, context) := fromEnd rest
    let (added, next) := step context c
    (columns + added, next)

end Width

/-- The number of columns of a text. -/
def displayWidth (text : Text) : Nat := (Width.fromEnd text).1.toNat

end GoldenFiles.Text
