import GoldenFiles.Text.Utf8

/-!
# Encoding and decoding

Strict decoding undoes encoding, and only the bytes of a text decode to it. So texts and the bytes
that are nothing but encoded characters are the same thing, and a byte below 128 in them is a
character.

## Main results

* `Utf8.chunks_encodeChar_append` — an encoded character is read as that character
* `Utf8.decode?_encode` — decoding undoes encoding
* `Utf8.encode_of_decode?` — encoding undoes decoding
* `Utf8.mem_encode_iff` — a byte below 128 stands for the character with its number
* `Utf8.mem_lenient_iff` — and does so in bytes that cannot be decoded as well
-/

namespace GoldenFiles.Utf8

variable {c : Char} {text : Text} {bytes rest : Bytes}

/-! ### Bytes behind a lead -/

@[simp] theorem readTails_zero (low high bits : Nat) (bytes : Bytes) :
    readTails 0 low high bits bytes = (some bits, bytes) := by
  cases bytes <;> rfl

theorem readTails_succ {tails low high bits : Nat} {b : UInt8}
    (h : low ≤ b.toNat ∧ b.toNat ≤ high) (rest : Bytes) :
    readTails (tails + 1) low high bits (b :: rest) =
      readTails tails 0x80 0xBF (bits * 64 + (b.toNat - 0x80)) rest := by
  rw [readTails, if_pos h]

/-- A character that is complete had its next byte within the bounds. -/
theorem exists_of_readTails_succ {tails low high bits n : Nat}
    (h : readTails (tails + 1) low high bits bytes = (some n, rest)) :
    ∃ b behind, bytes = b :: behind ∧ low ≤ b.toNat ∧ b.toNat ≤ high ∧
      readTails tails 0x80 0xBF (bits * 64 + (b.toNat - 0x80)) behind = (some n, rest) := by
  cases bytes with
  | nil => simp [readTails] at h
  | cons b behind =>
    by_cases hb : low ≤ b.toNat ∧ b.toNat ≤ high
    · rw [readTails_succ hb] at h
      exact ⟨b, behind, rfl, hb.1, hb.2, h⟩
    · simp [readTails, hb] at h

/-! ### Leads -/

theorem lead?_two {b : Nat} (hlow : 0xC2 ≤ b) (hhigh : b ≤ 0xDF) :
    lead? b = some ⟨1, 0x80, 0xBF, b - 0xC0⟩ := by
  rw [lead?, if_pos ⟨hlow, hhigh⟩]

/-- Behind the least lead of three bytes no shorter encoding is repeated, and behind the lead of the
surrogates there are none. -/
theorem lead?_three {b : Nat} (hlow : 0xE0 ≤ b) (hhigh : b ≤ 0xEF) :
    lead? b = some ⟨2, if b = 0xE0 then 0xA0 else 0x80, if b = 0xED then 0x9F else 0xBF,
      b - 0xE0⟩ := by
  unfold lead?
  grind

/-- Behind the greatest lead of four bytes there is nothing past the last code point. -/
theorem lead?_four {b : Nat} (hlow : 0xF0 ≤ b) (hhigh : b ≤ 0xF4) :
    lead? b = some ⟨3, if b = 0xF0 then 0x90 else 0x80, if b = 0xF4 then 0x8F else 0xBF,
      b - 0xF0⟩ := by
  unfold lead?
  grind

/-- The ranges of leads. -/
theorem range_of_lead? {b : Nat} {lead : Lead} (h : lead? b = some lead) :
    (0xC2 ≤ b ∧ b ≤ 0xDF) ∨ (0xE0 ≤ b ∧ b ≤ 0xEF) ∨ (0xF0 ≤ b ∧ b ≤ 0xF4) := by
  unfold lead? at h
  grind

/-! ### Decoding what has been encoded -/

theorem toNat_ofNat {n : Nat} (h : n < 256) : (UInt8.ofNat n).toNat = n :=
  UInt8.toNat_ofNat_of_lt' h

theorem char_range (c : Char) : c.toNat < 0xD800 ∨ 0xDFFF < c.toNat ∧ c.toNat < 0x110000 := c.valid

theorem toNat_ofNat_of_range {n : Nat} (h : n < 0xD800 ∨ 0xDFFF < n ∧ n < 0x110000) :
    (Char.ofNat n).toNat = n := by
  rw [Char.ofNat, dif_pos h]
  rfl

/-- Reading a character by its lead and the bytes behind it. -/
theorem chunks_of_lead {b n : Nat} {lead : Lead} (hlow : 0x80 ≤ b) (hhigh : b < 256)
    (hlead : lead? b = some lead)
    (htails : readTails lead.tails lead.low lead.high lead.bits bytes = (some n, rest)) :
    chunks (.ofNat b :: bytes) = some (.ofNat n) :: chunks rest := by
  have hb : (UInt8.ofNat b).toNat = b := toNat_ofNat hhigh
  rw [chunks, hb, if_neg (by omega)]
  simp only [hlead, htails]
  rfl

/-- Reading a byte that holds six bits of a number. -/
theorem readTails_sixBits {low high : Nat} (tails bits n : Nat) (rest : Bytes)
    (hlow : low ≤ 0x80 + n % 64) (hhigh : 0x80 + n % 64 ≤ high) :
    readTails (tails + 1) low high bits (.ofNat (0x80 + n % 64) :: rest) =
      readTails tails 0x80 0xBF (bits * 64 + n % 64) rest := by
  have hb : (UInt8.ofNat (0x80 + n % 64)).toNat = 0x80 + n % 64 := toNat_ofNat (by omega)
  rw [readTails_succ (by omega), hb, Nat.add_sub_cancel_left]

/-- An encoded character is read as that character. -/
theorem chunks_encodeChar_append (c : Char) (rest : Bytes) :
    chunks (encodeChar c ++ rest) = some c :: chunks rest := by
  have hrange := char_range c
  rw [← Char.ofNat_toNat c]
  generalize c.toNat = n at hrange
  unfold encodeChar
  simp only [toNat_ofNat_of_range hrange]
  -- The number is split into its lowest six bits, the next six and so on, and put together again.
  split
  · have hb : (UInt8.ofNat n).toNat = n := toNat_ofNat (by omega)
    rw [List.singleton_append, chunks, if_pos (by omega), hb]
  split
  · simp only [List.cons_append, List.nil_append]
    refine chunks_of_lead (by omega) (by omega) (lead?_two (by omega) (by omega)) ?_
    dsimp only
    rw [readTails_sixBits, readTails_zero]
    · congr 2
      omega
    · omega
    · omega
  split
  · simp only [List.cons_append, List.nil_append]
    refine chunks_of_lead (by omega) (by omega) (lead?_three (by omega) (by omega)) ?_
    dsimp only
    rw [readTails_sixBits, readTails_sixBits, readTails_zero]
    · congr 2
      omega
    · omega
    · omega
    · split <;> omega
    · split <;> omega
  · simp only [List.cons_append, List.nil_append]
    refine chunks_of_lead (by omega) (by omega) (lead?_four (by omega) (by omega)) ?_
    dsimp only
    rw [readTails_sixBits, readTails_sixBits, readTails_sixBits, readTails_zero]
    · congr 2
      omega
    · omega
    · omega
    · omega
    · omega
    · split <;> omega
    · split <;> omega

theorem encode_cons (c : Char) (text : Text) : encode (c :: text) = encodeChar c ++ encode text :=
  List.flatMap_cons

theorem chunks_encode (text : Text) : chunks (encode text) = text.map some := by
  induction text with
  | nil => simp [encode, chunks]
  | cons c text ih => rw [encode_cons, chunks_encodeChar_append, ih, List.map_cons]

/-- A text comes out only if every character could be read. -/
theorem mapM_id_eq_some_iff {chunks : List (Option Char)} :
    chunks.mapM id = some text ↔ chunks = text.map some := by
  induction chunks generalizing text with
  | nil => cases text <;> simp
  | cons chunk chunks ih =>
    cases chunk with
    | none => cases text <;> simp
    | some c =>
      cases hrest : chunks.mapM id with
      | none =>
        have hnone : ∀ text, chunks ≠ List.map some text := by
          intro text htext
          rw [ih.mpr htext] at hrest
          cases hrest
        cases text <;> simp [hrest, hnone]
      | some others =>
        have hothers := ih.mp hrest
        subst hothers
        cases text <;> simp [hrest, List.map_inj_right]

/-- Decoding undoes encoding. -/
theorem decode?_encode (text : Text) : decode? (encode text) = some text :=
  mapM_id_eq_some_iff.mpr (chunks_encode text)

/-- Text that can be decoded is shown as it is. -/
theorem lenient_of_decode? {bytes : Bytes} (h : decode? bytes = some text) :
    lenient bytes = text := by
  rw [lenient, mapM_id_eq_some_iff.mp h, List.map_map]
  exact List.map_id text

/-! ### Encoding what has been decoded -/

theorem encodeChar_one {b : UInt8} (h : b.toNat < 0x80) : encodeChar (.ofNat b.toNat) = [b] := by
  have hn : (Char.ofNat b.toNat).toNat = b.toNat := toNat_ofNat_of_range (by omega)
  unfold encodeChar
  simp only [hn]
  rw [if_pos h, UInt8.ofNat_toNat]

theorem encodeChar_two {b b1 : UInt8} {n : Nat} (hlow : 0xC2 ≤ b.toNat) (hhigh : b.toNat ≤ 0xDF)
    (hlow1 : 0x80 ≤ b1.toNat) (hhigh1 : b1.toNat ≤ 0xBF)
    (hn : n = (b.toNat - 0xC0) * 64 + (b1.toNat - 0x80)) : encodeChar (.ofNat n) = [b, b1] := by
  have hc : (Char.ofNat n).toNat = n := toNat_ofNat_of_range (by omega)
  have hb : 0xC0 + n / 64 = b.toNat := by omega
  have hb1 : 0x80 + n % 64 = b1.toNat := by omega
  unfold encodeChar
  simp only [hc]
  rw [if_neg (by omega), if_pos (by omega), hb, hb1, UInt8.ofNat_toNat, UInt8.ofNat_toNat]

theorem encodeChar_three {b b1 b2 : UInt8} {n : Nat} (hlow : 0xE0 ≤ b.toNat)
    (hhigh : b.toNat ≤ 0xEF)
    (hlow1 : (if b.toNat = 0xE0 then 0xA0 else 0x80) ≤ b1.toNat)
    (hhigh1 : b1.toNat ≤ if b.toNat = 0xED then 0x9F else 0xBF)
    (hlow2 : 0x80 ≤ b2.toNat) (hhigh2 : b2.toNat ≤ 0xBF)
    (hn : n = ((b.toNat - 0xE0) * 64 + (b1.toNat - 0x80)) * 64 + (b2.toNat - 0x80)) :
    encodeChar (.ofNat n) = [b, b1, b2] := by
  have hlow1' : 0x80 ≤ b1.toNat := by split at hlow1 <;> omega
  have hhigh1' : b1.toNat ≤ 0xBF := by split at hhigh1 <;> omega
  -- The bounds of the first byte behind the lead keep out short numbers and surrogates.
  have hleast : 0x800 ≤ n := by split at hlow1 <;> omega
  have hrange : n < 0xD800 ∨ 0xDFFF < n ∧ n < 0x110000 := by split at hhigh1 <;> omega
  have hc : (Char.ofNat n).toNat = n := toNat_ofNat_of_range hrange
  have hb : 0xE0 + n / 4096 = b.toNat := by omega
  have hb1 : 0x80 + n / 64 % 64 = b1.toNat := by omega
  have hb2 : 0x80 + n % 64 = b2.toNat := by omega
  unfold encodeChar
  simp only [hc]
  rw [if_neg (by omega), if_neg (by omega), if_pos (by omega), hb, hb1, hb2, UInt8.ofNat_toNat,
    UInt8.ofNat_toNat, UInt8.ofNat_toNat]

theorem encodeChar_four {b b1 b2 b3 : UInt8} {n : Nat} (hlow : 0xF0 ≤ b.toNat)
    (hhigh : b.toNat ≤ 0xF4) (hlow1 : (if b.toNat = 0xF0 then 0x90 else 0x80) ≤ b1.toNat)
    (hhigh1 : b1.toNat ≤ if b.toNat = 0xF4 then 0x8F else 0xBF)
    (hlow2 : 0x80 ≤ b2.toNat) (hhigh2 : b2.toNat ≤ 0xBF)
    (hlow3 : 0x80 ≤ b3.toNat) (hhigh3 : b3.toNat ≤ 0xBF)
    (hn : n = (((b.toNat - 0xF0) * 64 + (b1.toNat - 0x80)) * 64 + (b2.toNat - 0x80)) * 64 +
      (b3.toNat - 0x80)) :
    encodeChar (.ofNat n) = [b, b1, b2, b3] := by
  have hlow1' : 0x80 ≤ b1.toNat := by split at hlow1 <;> omega
  have hhigh1' : b1.toNat ≤ 0xBF := by split at hhigh1 <;> omega
  have hleast : 0x10000 ≤ n := by split at hlow1 <;> omega
  have hmost : n < 0x110000 := by split at hhigh1 <;> omega
  have hc : (Char.ofNat n).toNat = n := toNat_ofNat_of_range (by omega)
  have hb : 0xF0 + n / 262144 = b.toNat := by omega
  have hb1 : 0x80 + n / 4096 % 64 = b1.toNat := by omega
  have hb2 : 0x80 + n / 64 % 64 = b2.toNat := by omega
  have hb3 : 0x80 + n % 64 = b3.toNat := by omega
  unfold encodeChar
  simp only [hc]
  rw [if_neg (by omega), if_neg (by omega), if_neg (by omega), hb, hb1, hb2, hb3,
    UInt8.ofNat_toNat, UInt8.ofNat_toNat, UInt8.ofNat_toNat, UInt8.ofNat_toNat]

/-- The bytes from which a character has been read encode it. -/
theorem encodeChar_of_lead {b : UInt8} {lead : Lead} {n : Nat} (hlead : lead? b.toNat = some lead)
    (htails : readTails lead.tails lead.low lead.high lead.bits bytes = (some n, rest)) :
    b :: bytes = encodeChar (.ofNat n) ++ rest := by
  rcases range_of_lead? hlead with ⟨hlow, hhigh⟩ | ⟨hlow, hhigh⟩ | ⟨hlow, hhigh⟩
  · rw [lead?_two hlow hhigh] at hlead
    cases hlead
    obtain ⟨b1, bytes, rfl, hlow1, hhigh1, htails⟩ := exists_of_readTails_succ htails
    rw [readTails_zero] at htails
    obtain ⟨hn, rfl⟩ := Prod.mk.inj htails
    rw [encodeChar_two hlow hhigh hlow1 hhigh1 (Option.some.inj hn).symm]
    rfl
  · rw [lead?_three hlow hhigh] at hlead
    cases hlead
    obtain ⟨b1, bytes, rfl, hlow1, hhigh1, htails⟩ := exists_of_readTails_succ htails
    obtain ⟨b2, bytes, rfl, hlow2, hhigh2, htails⟩ := exists_of_readTails_succ htails
    rw [readTails_zero] at htails
    obtain ⟨hn, rfl⟩ := Prod.mk.inj htails
    rw [encodeChar_three hlow hhigh hlow1 hhigh1 hlow2 hhigh2 (Option.some.inj hn).symm]
    rfl
  · rw [lead?_four hlow hhigh] at hlead
    cases hlead
    obtain ⟨b1, bytes, rfl, hlow1, hhigh1, htails⟩ := exists_of_readTails_succ htails
    obtain ⟨b2, bytes, rfl, hlow2, hhigh2, htails⟩ := exists_of_readTails_succ htails
    obtain ⟨b3, bytes, rfl, hlow3, hhigh3, htails⟩ := exists_of_readTails_succ htails
    rw [readTails_zero] at htails
    obtain ⟨hn, rfl⟩ := Prod.mk.inj htails
    rw [encodeChar_four hlow hhigh hlow1 hhigh1 hlow2 hhigh2 hlow3 hhigh3 (Option.some.inj hn).symm]
    rfl

/-- Encoding undoes decoding. -/
theorem encode_of_decode? (h : decode? bytes = some text) : encode text = bytes := by
  replace h := mapM_id_eq_some_iff.mp h
  fun_induction chunks bytes generalizing text with
  | case1 =>
    obtain rfl : text = [] := by simpa using h.symm
    rfl
  | case2 b rest hb ih =>
    obtain ⟨c, text, rfl, hc, htext⟩ := List.map_eq_cons_iff.mp h.symm
    cases hc
    rw [encode_cons, encodeChar_one hb, ih htext.symm]
    rfl
  | case3 b rest hb hnone ih =>
    obtain ⟨c, text, rfl, hc, htext⟩ := List.map_eq_cons_iff.mp h.symm
    cases hc
  | case4 b rest hb lead hlead ih =>
    obtain ⟨c, text, rfl, hc, htext⟩ := List.map_eq_cons_iff.mp h.symm
    obtain ⟨n, hn, rfl⟩ := Option.map_eq_some_iff.mp hc.symm
    rw [encode_cons, ih htext.symm]
    exact (encodeChar_of_lead hlead (Prod.ext hn rfl)).symm

/-! ### Consequences -/

theorem decode?_inj {other : Bytes} (h : decode? bytes = some text)
    (hother : decode? other = some text) : bytes = other :=
  (encode_of_decode? h).symm.trans (encode_of_decode? hother)

theorem encode_injective {a b : Text} (h : encode a = encode b) : a = b := by
  have hdecode := decode?_encode a
  rw [h, decode?_encode] at hdecode
  exact (Option.some.inj hdecode).symm

/-- Leads and the bytes behind them are no characters of their own. -/
theorem le_of_mem_encodeChar {b : UInt8} (hc : 0x80 ≤ c.toNat) (h : b ∈ encodeChar c) :
    0x80 ≤ b.toNat := by
  have hrange := char_range c
  unfold encodeChar at h
  dsimp only at h
  rw [if_neg (by omega)] at h
  split at h
  · simp only [List.mem_cons, List.not_mem_nil, or_false] at h
    rcases h with rfl | rfl <;> rw [toNat_ofNat (by omega)] <;> omega
  split at h
  · simp only [List.mem_cons, List.not_mem_nil, or_false] at h
    rcases h with rfl | rfl | rfl <;> rw [toNat_ofNat (by omega)] <;> omega
  · simp only [List.mem_cons, List.not_mem_nil, or_false] at h
    rcases h with rfl | rfl | rfl | rfl <;> rw [toNat_ofNat (by omega)] <;> omega

theorem mem_encodeChar_iff {b : UInt8} (hb : b.toNat < 0x80) :
    b ∈ encodeChar c ↔ c = .ofNat b.toNat := by
  constructor
  · intro h
    by_cases hc : c.toNat < 0x80
    · simp only [encodeChar, if_pos hc, List.mem_singleton] at h
      rw [h, toNat_ofNat (by omega), Char.ofNat_toNat]
    · have hle := le_of_mem_encodeChar (by omega) h
      omega
  · rintro rfl
    rw [encodeChar_one hb]
    exact List.mem_singleton_self b

/-- A byte below 128 stands for the character with its number. -/
theorem mem_encode_iff {b : UInt8} (hb : b.toNat < 0x80) :
    b ∈ encode text ↔ Char.ofNat b.toNat ∈ text := by
  unfold encode
  rw [List.mem_flatMap]
  constructor
  · rintro ⟨c, hmem, hc⟩
    rwa [(mem_encodeChar_iff hb).mp hc] at hmem
  · intro hmem
    exact ⟨_, hmem, (mem_encodeChar_iff hb).mpr rfl⟩

/-! ### Bytes below 128 in what is shown -/

theorem low_of_lead? {b : Nat} {lead : Lead} (h : lead? b = some lead) : 0x80 ≤ lead.low := by
  unfold lead? at h
  grind

/-- What is read behind a lead is no character of its own. -/
theorem mem_readTails_iff {b : UInt8} {tails low high bits : Nat} (hb : b.toNat < 0x80)
    (hlow : 0x80 ≤ low) : b ∈ (readTails tails low high bits bytes).2 ↔ b ∈ bytes := by
  fun_induction readTails tails low high bits bytes with
  | case1 => rfl
  | case2 => rfl
  | case3 low high bits first rest tails hfirst ih =>
    have hne : b ≠ first := by
      rintro rfl
      omega
    rw [ih (Nat.le_refl 0x80), List.mem_cons, or_iff_right hne]
  | case4 => rfl

/-- However bytes are shown, one below 128 stands for the character with its number. -/
theorem mem_lenient_iff {b : UInt8} (hb : b.toNat < 0x80) :
    Char.ofNat b.toNat ∈ lenient bytes ↔ b ∈ bytes := by
  have hb' : (Char.ofNat b.toNat).toNat = b.toNat := toNat_ofNat_of_range (by omega)
  have hreplaced : Char.ofNat b.toNat ≠ '\uFFFD' := by
    intro h
    rw [h] at hb'
    have hnat : '\uFFFD'.toNat = 0xFFFD := rfl
    omega
  have hne {first : UInt8} (h : ¬ first.toNat < 0x80) : b ≠ first := fun heq => h (heq ▸ hb)
  unfold lenient
  fun_induction chunks bytes with
  | case1 => exact iff_of_false List.not_mem_nil List.not_mem_nil
  | case2 first rest hfirst ih =>
    rw [List.map_cons, List.mem_cons, List.mem_cons, Option.getD_some]
    refine or_congr ⟨fun h => ?_, fun h => by rw [h]⟩ ih
    rw [h, toNat_ofNat_of_range (by omega)] at hb'
    exact UInt8.toNat_inj.mp hb'.symm
  | case3 first rest hfirst hlead ih =>
    rw [List.map_cons, List.mem_cons, List.mem_cons, or_iff_right (hne hfirst)]
    exact (or_iff_right hreplaced).trans ih
  | case4 first rest hfirst lead hlead ih =>
    rw [List.map_cons, List.mem_cons, List.mem_cons, or_iff_right (hne hfirst)]
    refine (or_iff_right ?_).trans (ih.trans (mem_readTails_iff hb (low_of_lead? hlead)))
    cases hn : (readTails lead.tails lead.low lead.high lead.bits rest).1 with
    | none => exact hreplaced
    | some n =>
      intro hc
      have hbytes := encodeChar_of_lead hlead (Prod.ext hn rfl)
      rw [← show Char.ofNat b.toNat = Char.ofNat n from hc, encodeChar_one hb] at hbytes
      exact hne hfirst (List.cons.inj hbytes).1.symm

end GoldenFiles.Utf8
