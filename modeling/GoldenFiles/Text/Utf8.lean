import GoldenFiles.Text

/-!
# UTF-8

Files and file names are bytes. Bytes are split from the left into encoded characters and stretches
that begin no character; a stretch that is the beginning of an encoded character is taken as long as
it goes. Strict decoding wants characters only, lenient decoding shows every other stretch as a
replacement character.

## Main definitions

* `Utf8.encode` — the bytes of a text
* `Utf8.chunks` — bytes as characters and stretches that are none
* `Utf8.decode?` — the text of bytes that are nothing but characters
* `Utf8.lenient` — bytes as a text, whatever they are
-/

namespace GoldenFiles

/-- The content of a file, or of a name: its bytes in order. -/
abbrev Bytes := List UInt8

namespace Utf8

/-! ### Encoding -/

/-- The bytes of a character. -/
def encodeChar (c : Char) : Bytes :=
  let n := c.toNat
  if n < 0x80 then
    [.ofNat n]
  else if n < 0x800 then
    [.ofNat (0xC0 + n / 64), .ofNat (0x80 + n % 64)]
  else if n < 0x10000 then
    [.ofNat (0xE0 + n / 4096), .ofNat (0x80 + n / 64 % 64), .ofNat (0x80 + n % 64)]
  else
    [.ofNat (0xF0 + n / 262144), .ofNat (0x80 + n / 4096 % 64), .ofNat (0x80 + n / 64 % 64),
      .ofNat (0x80 + n % 64)]

/-- The bytes of a text. -/
def encode (text : Text) : Bytes := text.flatMap encodeChar

/-! ### Decoding -/

/-- What a byte says that begins a character of several bytes. -/
structure Lead where
  /-- The number of bytes that follow. -/
  tails : Nat
  /-- The least value of the next byte. -/
  low : Nat
  /-- The greatest value of the next byte. -/
  high : Nat
  /-- The leading bits of the character. -/
  bits : Nat

/-- The lead that a byte is, unless it begins no character of several bytes. -/
def lead? (b : Nat) : Option Lead :=
  if 0xC2 ≤ b ∧ b ≤ 0xDF then some ⟨1, 0x80, 0xBF, b - 0xC0⟩
  else if b = 0xE0 then some ⟨2, 0xA0, 0xBF, 0⟩
  else if b = 0xED then some ⟨2, 0x80, 0x9F, 0xD⟩
  else if 0xE1 ≤ b ∧ b ≤ 0xEF then some ⟨2, 0x80, 0xBF, b - 0xE0⟩
  else if b = 0xF0 then some ⟨3, 0x90, 0xBF, 0⟩
  else if 0xF1 ≤ b ∧ b ≤ 0xF3 then some ⟨3, 0x80, 0xBF, b - 0xF0⟩
  else if b = 0xF4 then some ⟨3, 0x80, 0x8F, 4⟩
  else none

/-- Reads the bytes that follow a lead: the code point they complete, if they do, and the bytes
behind those that could be read. -/
def readTails (tails low high bits : Nat) : Bytes → Option Nat × Bytes
  | [] => (if tails = 0 then some bits else none, [])
  | b :: rest =>
    match tails with
    | 0 => (some bits, b :: rest)
    | tails + 1 =>
      if low ≤ b.toNat ∧ b.toNat ≤ high then
        readTails tails 0x80 0xBF (bits * 64 + (b.toNat - 0x80)) rest
      else
        (none, b :: rest)

theorem length_readTails_le (tails low high bits : Nat) (bytes : Bytes) :
    (readTails tails low high bits bytes).2.length ≤ bytes.length := by
  fun_induction readTails tails low high bits bytes with
  | case1 => simp
  | case2 => simp
  | case3 => simp only [List.length_cons]; omega
  | case4 => simp

/-- Bytes as encoded characters and, for every stretch that is none, nothing. -/
def chunks : Bytes → List (Option Char)
  | [] => []
  | b :: rest =>
    if b.toNat < 0x80 then
      some (.ofNat b.toNat) :: chunks rest
    else
      match lead? b.toNat with
      | none => none :: chunks rest
      | some lead =>
        (readTails lead.tails lead.low lead.high lead.bits rest).1.map Char.ofNat ::
          chunks (readTails lead.tails lead.low lead.high lead.bits rest).2
  termination_by bytes => bytes.length
  decreasing_by
    all_goals simp only [List.length_cons]
    · omega
    · omega
    · exact Nat.lt_succ_of_le (length_readTails_le ..)

/-- The text of bytes that are nothing but encoded characters. -/
def decode? (bytes : Bytes) : Option Text := (chunks bytes).mapM id

/-- Bytes as a text, with a replacement character for every stretch that is no character. -/
def lenient (bytes : Bytes) : Text := (chunks bytes).map (·.getD '\uFFFD')

end Utf8

end GoldenFiles
