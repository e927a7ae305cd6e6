import Transducer.Proofs.Outcome
import Transducer.Text.Utf8

/-!
# Decoding undoes encoding

Bytes that can be decoded are those of the decoded characters (`eq_flatMap_of_decodeFrom`), and the
bytes of characters can be decoded (`decodeFrom_flatMap`). So decoding refuses exactly the bytes
that are no UTF-8 text (`decode_eq_ok_iff`). Characters below 128 are single bytes
(`flatMap_ascii`).
-/

namespace Transducer.Text.Utf8

open Outcome (bind_eq_ok_iff)
open String (utf8EncodeChar)

/-- The number of the character with a valid number. -/
theorem toNat_val_ofNat {n : Nat} (h : n < 0xD800 ∨ 0xDFFF < n ∧ n < 0x110000) :
    (Char.ofNat n).val.toNat = n := by
  have hvalid : n.isValidChar := h
  unfold Char.ofNat
  rw [dif_pos hvalid]
  rfl

/-- A byte is determined by its number. -/
theorem ofNat_eq {b : UInt8} {n : Nat} (h : n = b.toNat) : UInt8.ofNat n = b := by
  rw [h, UInt8.ofNat_toNat]

/-- A byte below 128 is a character of its own. -/
theorem lead?_of_lt {b : UInt8} (h : b.toNat < 0x80) : lead? b = some (0, 0x80, 0xBF) :=
  if_pos (UInt8.lt_iff_toNat_lt.2 h)

/-- Bytes that start no character. -/
theorem lead?_eq_none {b : UInt8} (h : 0x80 ≤ b.toNat ∧ b.toNat < 0xC2 ∨ 0xF4 < b.toNat) :
    lead? b = none := by
  have hall : ∀ n < 256, 0x80 ≤ n ∧ n < 0xC2 ∨ 0xF4 < n → lead? (UInt8.ofNat n) = none := by
    decide +kernel
  have hnone := hall b.toNat b.toNat_lt h
  rwa [UInt8.ofNat_toNat] at hnone

/-- A byte that starts a longer character says how many follow, and bounds the second one. -/
theorem exists_lead? {b : UInt8} (h : 0xC2 ≤ b.toNat ∧ b.toNat ≤ 0xF4) :
    ∃ owed low high, lead? b = some (owed + 1, low, high) ∧
      owed = (if b.toNat < 0xE0 then 0 else if b.toNat < 0xF0 then 1 else 2) ∧
      (b.toNat = 0xE0 → low.toNat = 0xA0) ∧ (b.toNat = 0xF0 → low.toNat = 0x90) ∧
      (b.toNat ≠ 0xE0 ∧ b.toNat ≠ 0xF0 → low.toNat = 0x80) ∧
      (b.toNat = 0xED → high.toNat = 0x9F) ∧ (b.toNat = 0xF4 → high.toNat = 0x8F) ∧
      (b.toNat ≠ 0xED ∧ b.toNat ≠ 0xF4 → high.toNat = 0xBF) := by
  have hall : ∀ n < 0xF5, 0xC2 ≤ n → lead? (UInt8.ofNat n) = some
      ((if n < 0xE0 then 0 else if n < 0xF0 then 1 else 2) + 1,
        if n = 0xE0 then 0xA0 else if n = 0xF0 then 0x90 else 0x80,
        if n = 0xED then 0x9F else if n = 0xF4 then 0x8F else 0xBF) := by
    decide +kernel
  have hlead := hall b.toNat (Nat.lt_succ_of_le h.2) h.1
  rw [UInt8.ofNat_toNat] at hlead
  refine ⟨_, _, _, hlead, rfl, ?_⟩
  generalize b.toNat = n
  by_cases hE0 : n = 0xE0
  · simp [hE0]
  by_cases hF0 : n = 0xF0
  · simp [hF0]
  by_cases hED : n = 0xED
  · simp [hED]
  by_cases hF4 : n = 0xF4
  · simp [hF4]
  simp [hE0, hF0, hED, hF4]

/-- A first byte, by the number of those that follow it. -/
theorem lead?_eq_some {b low high : UInt8} {owed : Nat} (h : lead? b = some (owed, low, high)) :
    owed = 0 ∧ b.toNat < 0x80 ∨
      0x80 ≤ low.toNat ∧ high.toNat ≤ 0xBF ∧
        (owed = 1 ∧ 0xC2 ≤ b.toNat ∧ b.toNat < 0xE0 ∨
          owed = 2 ∧ 0xE0 ≤ b.toNat ∧ b.toNat < 0xF0 ∧ (b.toNat = 0xE0 → 0xA0 ≤ low.toNat) ∧
            (b.toNat = 0xED → high.toNat ≤ 0x9F) ∨
          owed = 3 ∧ 0xF0 ≤ b.toNat ∧ b.toNat ≤ 0xF4 ∧ (b.toNat = 0xF0 → 0x90 ≤ low.toNat) ∧
            (b.toNat = 0xF4 → high.toNat ≤ 0x8F)) := by
  by_cases hlt : b.toNat < 0x80
  · rw [lead?_of_lt hlt] at h
    obtain ⟨rfl, -⟩ := Prod.mk.inj (Option.some.inj h)
    exact .inl ⟨rfl, hlt⟩
  by_cases hlong : 0xC2 ≤ b.toNat ∧ b.toNat ≤ 0xF4
  · obtain ⟨more, low', high', hlead, hmore, hbounds⟩ := exists_lead? hlong
    obtain ⟨rfl, rfl, rfl⟩ : more + 1 = owed ∧ low' = low ∧ high' = high := by
      simpa using hlead.symm.trans h
    refine .inr ?_
    split at hmore
    · omega
    · split at hmore <;> omega
  · rw [lead?_eq_none (by omega)] at h
    cases h

/-- The bytes of the character with a valid number. -/
theorem utf8EncodeChar_ofNat {n : Nat} (h : n < 0xD800 ∨ 0xDFFF < n ∧ n < 0x110000) :
    utf8EncodeChar (Char.ofNat n) =
      if n ≤ 0x7F then [UInt8.ofNat n]
      else if n ≤ 0x7FF then [UInt8.ofNat (n / 64 % 32 + 0xC0), UInt8.ofNat (n % 64 + 0x80)]
      else if n ≤ 0xFFFF then
        [UInt8.ofNat (n / 4096 % 16 + 0xE0), UInt8.ofNat (n / 64 % 64 + 0x80),
          UInt8.ofNat (n % 64 + 0x80)]
      else
        [UInt8.ofNat (n / 262144 % 8 + 0xF0), UInt8.ofNat (n / 4096 % 64 + 0x80),
          UInt8.ofNat (n / 64 % 64 + 0x80), UInt8.ofNat (n % 64 + 0x80)] := by
  unfold utf8EncodeChar
  dsimp only
  rw [toNat_val_ofNat h]

section Pending

variable {pos start read owed code : Nat} {first low high : UInt8} {bytes : List UInt8}
  {chars : List Char}

/-- A character that lacks one byte ends with a byte between its bounds. -/
theorem decodeFrom_last
    (h : decodeFrom pos (some ⟨start, first, read, 1, low, high, code⟩) bytes = .ok chars) :
    ∃ b rest tail, bytes = b :: rest ∧ low.toNat ≤ b.toNat ∧ b.toNat ≤ high.toNat ∧
      decodeFrom (pos + 1) none rest = .ok tail ∧
      chars = Char.ofNat (code * 64 + (b.toNat - 0x80)) :: tail := by
  cases bytes with
  | nil => cases h
  | cons b rest =>
    rw [decodeFrom] at h
    split at h
    · cases h
    · rename_i hbounds
      rw [Bool.or_eq_true, decide_eq_true_eq, decide_eq_true_eq, not_or, UInt8.lt_iff_toNat_lt,
        UInt8.lt_iff_toNat_lt] at hbounds
      dsimp only at h hbounds
      rw [if_pos rfl] at h
      obtain ⟨tail, htail, h⟩ := bind_eq_ok_iff.1 h
      exact ⟨b, rest, tail, rfl, by omega, by omega, htail, (Except.ok.inj h).symm⟩

/-- A character that lacks more goes on with a byte between its bounds. -/
theorem decodeFrom_next
    (h : decodeFrom pos (some ⟨start, first, read, owed + 2, low, high, code⟩) bytes =
      .ok chars) :
    ∃ b rest, bytes = b :: rest ∧ low.toNat ≤ b.toNat ∧ b.toNat ≤ high.toNat ∧
      decodeFrom (pos + 1) (some ⟨start, first, read + 1, owed + 1, 0x80, 0xBF,
        code * 64 + (b.toNat - 0x80)⟩) rest = .ok chars := by
  cases bytes with
  | nil => cases h
  | cons b rest =>
    rw [decodeFrom] at h
    split at h
    · cases h
    · rename_i hbounds
      rw [Bool.or_eq_true, decide_eq_true_eq, decide_eq_true_eq, not_or, UInt8.lt_iff_toNat_lt,
        UInt8.lt_iff_toNat_lt] at hbounds
      dsimp only at h hbounds
      rw [if_neg (by omega)] at h
      exact ⟨b, rest, rfl, by omega, by omega, h⟩

end Pending

/-- The first character that is decoded is that of the first bytes. -/
theorem decodeFrom_cons_eq_ok {pos : Nat} {b : UInt8} {rest : List UInt8} {chars : List Char}
    (h : decodeFrom pos none (b :: rest) = .ok chars) :
    ∃ c bytes tail pos', b :: rest = utf8EncodeChar c ++ bytes ∧ chars = c :: tail ∧
      decodeFrom pos' none bytes = .ok tail := by
  have h80 : (0x80 : UInt8).toNat = 0x80 := rfl
  have hBF : (0xBF : UInt8).toNat = 0xBF := rfl
  rw [decodeFrom] at h
  split at h
  · cases h
  · rename_i low high hlead
    obtain ⟨tail, htail, h⟩ := bind_eq_ok_iff.1 h
    have hb := lead?_eq_some hlead
    refine ⟨Char.ofNat b.toNat, rest, tail, _, ?_, (Except.ok.inj h).symm, htail⟩
    rw [utf8EncodeChar_ofNat (by omega), if_pos (by omega), UInt8.ofNat_toNat]
    rfl
  · rename_i owed low high hpos hlead
    -- The bounds of the first two bytes keep the code out of what a shorter character or half of a
    -- surrogate pair has, so that it is encoded with as many bytes again.
    obtain ⟨rfl, -⟩ | ⟨hlo, hhi, ⟨rfl, hb⟩ | ⟨rfl, hb⟩ | ⟨rfl, hb⟩⟩ := lead?_eq_some hlead
    · exact (hpos rfl).elim
    · have hbits : leadBits b 1 = b.toNat - 0xC0 := rfl
      rw [hbits] at h
      obtain ⟨b1, bytes, tail, rfl, hlow, hhigh, htail, rfl⟩ := decodeFrom_last h
      refine ⟨_, bytes, tail, _, ?_, rfl, htail⟩
      rw [utf8EncodeChar_ofNat (by omega), if_neg (by omega), if_pos (by omega),
        ofNat_eq (b := b) (by omega), ofNat_eq (b := b1) (by omega)]
      rfl
    · have hbits : leadBits b 2 = b.toNat - 0xE0 := rfl
      rw [hbits] at h
      obtain ⟨b1, rest, rfl, hlow, hhigh, h⟩ := decodeFrom_next h
      obtain ⟨b2, bytes, tail, rfl, hlow2, hhigh2, htail, rfl⟩ := decodeFrom_last h
      refine ⟨_, bytes, tail, _, ?_, rfl, htail⟩
      rw [utf8EncodeChar_ofNat (by omega), if_neg (by omega), if_neg (by omega),
        if_pos (by omega), ofNat_eq (b := b) (by omega), ofNat_eq (b := b1) (by omega),
        ofNat_eq (b := b2) (by omega)]
      rfl
    · have hbits : leadBits b 3 = b.toNat - 0xF0 := rfl
      rw [hbits] at h
      obtain ⟨b1, rest, rfl, hlow, hhigh, h⟩ := decodeFrom_next h
      obtain ⟨b2, rest, rfl, hlow2, hhigh2, h⟩ := decodeFrom_next h
      obtain ⟨b3, bytes, tail, rfl, hlow3, hhigh3, htail, rfl⟩ := decodeFrom_last h
      refine ⟨_, bytes, tail, _, ?_, rfl, htail⟩
      rw [utf8EncodeChar_ofNat (by omega), if_neg (by omega), if_neg (by omega),
        if_neg (by omega), ofNat_eq (b := b) (by omega), ofNat_eq (b := b1) (by omega),
        ofNat_eq (b := b2) (by omega), ofNat_eq (b := b3) (by omega)]
      rfl

/-- Bytes that can be decoded are those of the characters. -/
theorem eq_flatMap_of_decodeFrom {pos : Nat} {bytes : List UInt8} {chars : List Char}
    (h : decodeFrom pos none bytes = .ok chars) : bytes = chars.flatMap utf8EncodeChar := by
  induction chars generalizing pos bytes with
  | nil =>
    cases bytes with
    | nil => rfl
    | cons b rest =>
      obtain ⟨c, bytes, tail, pos', -, hchars, -⟩ := decodeFrom_cons_eq_ok h
      cases hchars
  | cons c chars ih =>
    cases bytes with
    | nil => cases h
    | cons b rest =>
      obtain ⟨c', bytes, tail, pos', hbytes, hchars, htail⟩ := decodeFrom_cons_eq_ok h
      obtain ⟨rfl, rfl⟩ := List.cons.inj hchars
      rw [hbytes, List.flatMap_cons, ih htail]

/-! ## The bytes of characters -/

section Steps

variable {pos start read owed code : Nat} {first low high b b0 b1 b2 b3 : UInt8}
  {rest : List UInt8} {tail : List Char}

/-- A byte that others follow starts a character. -/
theorem decodeFrom_of_lead (h : lead? b = some (owed + 1, low, high)) :
    decodeFrom pos none (b :: rest) =
      decodeFrom (pos + 1) (some ⟨pos, b, 1, owed + 1, low, high, leadBits b (owed + 1)⟩) rest := by
  rw [decodeFrom, h]
  rfl

/-- A byte between its bounds goes on with a character that lacks more. -/
theorem decodeFrom_of_next (hb : low.toNat ≤ b.toNat ∧ b.toNat ≤ high.toNat) :
    decodeFrom pos (some ⟨start, first, read, owed + 2, low, high, code⟩) (b :: rest) =
      decodeFrom (pos + 1) (some ⟨start, first, read + 1, owed + 1, 0x80, 0xBF,
        code * 64 + (b.toNat - 0x80)⟩) rest := by
  rw [decodeFrom, if_neg (by simp [UInt8.lt_iff_toNat_lt]; omega)]
  dsimp only
  rw [if_neg (by omega)]
  rfl

/-- A byte between its bounds ends a character that lacks one byte. -/
theorem decodeFrom_of_last (hb : low.toNat ≤ b.toNat ∧ b.toNat ≤ high.toNat)
    (htail : ∀ pos, decodeFrom pos none rest = .ok tail) :
    decodeFrom pos (some ⟨start, first, read, 1, low, high, code⟩) (b :: rest) =
      .ok (Char.ofNat (code * 64 + (b.toNat - 0x80)) :: tail) := by
  rw [decodeFrom, if_neg (by simp [UInt8.lt_iff_toNat_lt]; omega)]
  dsimp only
  rw [if_pos rfl, htail]
  rfl

/-- Two bytes within their bounds are a character. -/
theorem decodeFrom_two (htail : ∀ pos, decodeFrom pos none rest = .ok tail)
    (h0 : 0xC2 ≤ b0.toNat ∧ b0.toNat < 0xE0) (h1 : 0x80 ≤ b1.toNat ∧ b1.toNat ≤ 0xBF) :
    decodeFrom pos none (b0 :: b1 :: rest) =
      .ok (Char.ofNat ((b0.toNat - 0xC0) * 64 + (b1.toNat - 0x80)) :: tail) := by
  obtain ⟨owed, low, high, hlead, howed, -, -, hlow, -, -, hhigh⟩ :=
    exists_lead? (b := b0) (by omega)
  rw [if_pos (by omega)] at howed
  subst howed
  rw [decodeFrom_of_lead hlead, decodeFrom_of_last (by omega) htail]
  rfl

/-- Three bytes within their bounds are a character: the first one bounds the second. -/
theorem decodeFrom_three (htail : ∀ pos, decodeFrom pos none rest = .ok tail)
    (h0 : 0xE0 ≤ b0.toNat ∧ b0.toNat < 0xF0) (h1 : 0x80 ≤ b1.toNat ∧ b1.toNat ≤ 0xBF)
    (hE0 : b0.toNat = 0xE0 → 0xA0 ≤ b1.toNat) (hED : b0.toNat = 0xED → b1.toNat ≤ 0x9F)
    (h2 : 0x80 ≤ b2.toNat ∧ b2.toNat ≤ 0xBF) :
    decodeFrom pos none (b0 :: b1 :: b2 :: rest) =
      .ok (Char.ofNat (((b0.toNat - 0xE0) * 64 + (b1.toNat - 0x80)) * 64 + (b2.toNat - 0x80)) ::
        tail) := by
  obtain ⟨owed, low, high, hlead, howed, hlow, -, hlow', hhigh, -, hhigh'⟩ :=
    exists_lead? (b := b0) (by omega)
  rw [if_neg (by omega), if_pos (by omega)] at howed
  subst howed
  have h2 : (0x80 : UInt8).toNat ≤ b2.toNat ∧ b2.toNat ≤ (0xBF : UInt8).toNat := h2
  rw [decodeFrom_of_lead hlead, decodeFrom_of_next (by omega), decodeFrom_of_last h2 htail]
  rfl

/-- Four bytes within their bounds are a character: the first one bounds the second. -/
theorem decodeFrom_four (htail : ∀ pos, decodeFrom pos none rest = .ok tail)
    (h0 : 0xF0 ≤ b0.toNat ∧ b0.toNat ≤ 0xF4) (h1 : 0x80 ≤ b1.toNat ∧ b1.toNat ≤ 0xBF)
    (hF0 : b0.toNat = 0xF0 → 0x90 ≤ b1.toNat) (hF4 : b0.toNat = 0xF4 → b1.toNat ≤ 0x8F)
    (h2 : 0x80 ≤ b2.toNat ∧ b2.toNat ≤ 0xBF) (h3 : 0x80 ≤ b3.toNat ∧ b3.toNat ≤ 0xBF) :
    decodeFrom pos none (b0 :: b1 :: b2 :: b3 :: rest) =
      .ok (Char.ofNat ((((b0.toNat - 0xF0) * 64 + (b1.toNat - 0x80)) * 64 +
        (b2.toNat - 0x80)) * 64 + (b3.toNat - 0x80)) :: tail) := by
  obtain ⟨owed, low, high, hlead, howed, -, hlow, hlow', -, hhigh, hhigh'⟩ :=
    exists_lead? (b := b0) (by omega)
  rw [if_neg (by omega), if_neg (by omega)] at howed
  subst howed
  have h2 : (0x80 : UInt8).toNat ≤ b2.toNat ∧ b2.toNat ≤ (0xBF : UInt8).toNat := h2
  have h3 : (0x80 : UInt8).toNat ≤ b3.toNat ∧ b3.toNat ≤ (0xBF : UInt8).toNat := h3
  rw [decodeFrom_of_lead hlead, decodeFrom_of_next (by omega), decodeFrom_of_next h2,
    decodeFrom_of_last h3 htail]
  rfl

end Steps

/-- The bytes of a character are decoded to the character. -/
theorem decodeFrom_utf8EncodeChar (c : Char) {rest : List UInt8} {tail : List Char}
    (htail : ∀ pos, decodeFrom pos none rest = .ok tail) (pos : Nat) :
    decodeFrom pos none (utf8EncodeChar c ++ rest) = .ok (c :: tail) := by
  obtain ⟨n, hn, rfl⟩ : ∃ n, (n < 0xD800 ∨ 0xDFFF < n ∧ n < 0x110000) ∧ c = Char.ofNat n :=
    ⟨c.toNat, c.valid, (Char.ofNat_toNat c).symm⟩
  have hbyte : ∀ m, m < 256 → ∃ b, UInt8.ofNat m = b ∧ b.toNat = m :=
    fun m hm => ⟨_, rfl, UInt8.toNat_ofNat_of_lt' hm⟩
  -- Every byte gets a name, so that its number is all that is known of it.
  rw [utf8EncodeChar_ofNat hn]
  split
  · obtain ⟨b0, hb0, h0⟩ := hbyte n (by omega)
    rw [hb0, List.singleton_append, decodeFrom, lead?_of_lt (by omega), h0]
    simp only [htail]
    rfl
  split
  · obtain ⟨b0, hb0, h0⟩ := hbyte (n / 64 % 32 + 0xC0) (by omega)
    obtain ⟨b1, hb1, h1⟩ := hbyte (n % 64 + 0x80) (by omega)
    have hcode : (b0.toNat - 0xC0) * 64 + (b1.toNat - 0x80) = n := by omega
    rw [hb0, hb1]
    exact (decodeFrom_two htail (by omega) (by omega)).trans (by rw [hcode])
  split
  · obtain ⟨b0, hb0, h0⟩ := hbyte (n / 4096 % 16 + 0xE0) (by omega)
    obtain ⟨b1, hb1, h1⟩ := hbyte (n / 64 % 64 + 0x80) (by omega)
    obtain ⟨b2, hb2, h2⟩ := hbyte (n % 64 + 0x80) (by omega)
    have hcode : ((b0.toNat - 0xE0) * 64 + (b1.toNat - 0x80)) * 64 + (b2.toNat - 0x80) = n := by
      omega
    rw [hb0, hb1, hb2]
    exact (decodeFrom_three htail (by omega) (by omega) (by omega) (by omega) (by omega)).trans
      (by rw [hcode])
  · obtain ⟨b0, hb0, h0⟩ := hbyte (n / 262144 % 8 + 0xF0) (by omega)
    obtain ⟨b1, hb1, h1⟩ := hbyte (n / 4096 % 64 + 0x80) (by omega)
    obtain ⟨b2, hb2, h2⟩ := hbyte (n / 64 % 64 + 0x80) (by omega)
    obtain ⟨b3, hb3, h3⟩ := hbyte (n % 64 + 0x80) (by omega)
    have hcode : (((b0.toNat - 0xF0) * 64 + (b1.toNat - 0x80)) * 64 + (b2.toNat - 0x80)) * 64 +
        (b3.toNat - 0x80) = n := by
      omega
    rw [hb0, hb1, hb2, hb3]
    exact (decodeFrom_four htail (by omega) (by omega) (by omega) (by omega) (by omega)
      (by omega)).trans (by rw [hcode])

/-- The bytes of characters are decoded to the characters. -/
theorem decodeFrom_flatMap (chars : List Char) (pos : Nat) :
    decodeFrom pos none (chars.flatMap utf8EncodeChar) = .ok chars := by
  induction chars generalizing pos with
  | nil => rfl
  | cons c chars ih => exact decodeFrom_utf8EncodeChar c ih pos

/-- The bytes of some characters are decoded to them. -/
theorem decode_flatMap (chars : List Char) :
    decode (chars.flatMap utf8EncodeChar) = .ok (String.ofList chars) := by
  rw [decode, decodeFrom_flatMap]
  rfl

/-- Bytes can be decoded exactly if they are those of some characters. -/
theorem decode_eq_ok_iff {bytes : List UInt8} {s : String} :
    decode bytes = .ok s ↔ bytes = s.toList.flatMap utf8EncodeChar := by
  constructor
  · intro h
    unfold decode at h
    cases hchars : decodeFrom 0 none bytes with
    | error failure =>
      rw [hchars] at h
      cases h
    | ok chars =>
      rw [hchars] at h
      obtain rfl : String.ofList chars = s := Except.ok.inj h
      rw [String.toList_ofList]
      exact eq_flatMap_of_decodeFrom hchars
  · rintro rfl
    rw [decode_flatMap, String.ofList_toList]

/-- Characters below 128 are bytes with their codes. -/
theorem flatMap_ascii {chars : List Char} (h : ∀ c ∈ chars, c.toNat < 0x80) :
    chars.flatMap utf8EncodeChar = chars.map fun c => UInt8.ofNat c.toNat := by
  induction chars with
  | nil => rfl
  | cons c chars ih =>
    obtain ⟨hc, hchars⟩ := List.forall_mem_cons.1 h
    have hbytes : utf8EncodeChar c = [UInt8.ofNat c.toNat] := if_pos (Nat.le_of_lt_succ hc)
    rw [List.flatMap_cons, hbytes, ih hchars]
    rfl

end Transducer.Text.Utf8
