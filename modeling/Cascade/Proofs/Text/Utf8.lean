import Cascade.Text.Utf8

/-!
# UTF-8, written and read

Decoding gives back every text that was encoded.
-/

namespace Cascade.Text.Utf8

/-! ## 1. Bytes -/

theorem toNat_byte {n : Nat} (h : n < 0x100) : (UInt8.ofNat n).toNat = n :=
  UInt8.toNat_ofNat_of_lt h

theorem toNat_tailByte (n : Nat) : (tailByte n).toNat = 0x80 + n % 0x40 :=
  toNat_byte (by omega)

/-- The marker of a byte is taken off again. -/
theorem payload_byte (marker : Nat) {n : Nat} (h : marker + n < 0x100) :
    payload marker (UInt8.ofNat (marker + n)) = n := by
  unfold payload
  rw [toNat_byte h]
  omega

theorem payload_tailByte (n : Nat) : payload 0x80 (tailByte n) = n % 0x40 :=
  payload_byte 0x80 (by omega)

theorem isTail_iff {b : UInt8} : isTail b = true ↔ 0x80 ≤ b.toNat ∧ b.toNat ≤ 0xBF := by
  simp [isTail, UInt8.le_iff_toNat_le]

theorem isTail_tailByte (n : Nat) : isTail (tailByte n) = true := by
  rw [isTail_iff, toNat_tailByte]
  omega

/-- Four first bytes leave less room to the second one than the others do. -/
theorem isSecond_iff {a b : UInt8} : isSecond a b = true ↔
    isTail b = true ∧ (a.toNat = 0xE0 → 0xA0 ≤ b.toNat) ∧ (a.toNat = 0xED → b.toNat < 0xA0) ∧
      (a.toNat = 0xF0 → 0x90 ≤ b.toNat) ∧ (a.toNat = 0xF4 → b.toNat < 0x90) := by
  simp [isSecond, ← UInt8.toNat_inj, UInt8.lt_iff_toNat_lt, UInt8.le_iff_toNat_le, and_assoc,
    Decidable.imp_iff_not_or]

/-! ## 2. One character -/

section
variable {a b c d : UInt8}

theorem decodeFrom_one (h : a.toNat < 0x80) (position : Nat) (rest : List UInt8) :
    decodeFrom position (a :: rest) =
      (decodeFrom (position + 1) rest).map (Char.ofNat a.toNat :: ·) := by
  rw [decodeFrom.eq_def]
  exact if_pos (UInt8.lt_iff_toNat_lt.2 h)

/-- A first byte that has others after it. -/
theorem not_single (h : 0xC2 ≤ a.toNat) (h' : a.toNat ≤ 0xF4) :
    ¬ a < 0x80 ∧ ¬ (decide (a < 0xC2) || decide (a > 0xF4)) = true := by
  simp [UInt8.lt_iff_toNat_lt]
  omega

theorem decodeFrom_two (h : 0xC2 ≤ a.toNat) (h' : a.toNat < 0xE0) (hb : isSecond a b = true)
    (position : Nat) (rest : List UInt8) :
    decodeFrom position (a :: b :: rest) =
      (decodeFrom (position + 2) rest).map
        (Char.ofNat (payload 0xC0 a * 0x40 + payload 0x80 b) :: ·) := by
  obtain ⟨hone, hstart⟩ := not_single h (by omega)
  have htwo : a < 0xE0 := UInt8.lt_iff_toNat_lt.2 h'
  rw [decodeFrom.eq_def]
  simp only [if_neg hone, if_neg hstart, hb, Bool.not_true, Bool.false_eq_true, if_false,
    if_pos htwo]

theorem decodeFrom_three (h : 0xE0 ≤ a.toNat) (h' : a.toNat < 0xF0) (hb : isSecond a b = true)
    (hc : isTail c = true) (position : Nat) (rest : List UInt8) :
    decodeFrom position (a :: b :: c :: rest) =
      (decodeFrom (position + 3) rest).map
        (Char.ofNat (payload 0xE0 a * 0x1000 + payload 0x80 b * 0x40 + payload 0x80 c) :: ·) := by
  obtain ⟨hone, hstart⟩ := not_single (a := a) (by omega) (by omega)
  have htwo : ¬ a < 0xE0 := fun hlt => absurd (UInt8.lt_iff_toNat_lt.1 hlt) (Nat.not_lt.2 h)
  have hthree : a < 0xF0 := UInt8.lt_iff_toNat_lt.2 h'
  rw [decodeFrom.eq_def]
  simp only [if_neg hone, if_neg hstart, hb, hc, Bool.not_true, Bool.false_eq_true, if_false,
    if_neg htwo, if_pos hthree]

theorem decodeFrom_four (h : 0xF0 ≤ a.toNat) (h' : a.toNat ≤ 0xF4) (hb : isSecond a b = true)
    (hc : isTail c = true) (hd : isTail d = true) (position : Nat) (rest : List UInt8) :
    decodeFrom position (a :: b :: c :: d :: rest) =
      (decodeFrom (position + 4) rest).map
        (Char.ofNat (payload 0xF0 a * 0x40000 + payload 0x80 b * 0x1000 + payload 0x80 c * 0x40 +
          payload 0x80 d) :: ·) := by
  obtain ⟨hone, hstart⟩ := not_single (a := a) (by omega) h'
  have htwo : ¬ a < 0xE0 := fun hlt =>
    absurd (UInt8.lt_iff_toNat_lt.1 hlt) (Nat.not_lt.2 (by simp; omega))
  have hthree : ¬ a < 0xF0 := fun hlt => absurd (UInt8.lt_iff_toNat_lt.1 hlt) (Nat.not_lt.2 h)
  rw [decodeFrom.eq_def]
  simp only [if_neg hone, if_neg hstart, hb, hc, hd, Bool.not_true, Bool.false_eq_true, if_false,
    if_neg htwo, if_neg hthree]

end

/-! ## 3. What was written -/

section
variable {n : Nat} (position : Nat) (rest : List UInt8)

/-- A first byte from 0xC2 on stands for no code point of one byte. -/
theorem decodeFrom_written_two (h : 0x80 ≤ n) (h' : n < 0x800) :
    decodeFrom position (UInt8.ofNat (0xC0 + n / 0x40) :: tailByte n :: rest) =
      (decodeFrom (position + 2) rest).map (Char.ofNat n :: ·) := by
  have ha : (UInt8.ofNat (0xC0 + n / 0x40)).toNat = 0xC0 + n / 0x40 := toNat_byte (by omega)
  have hb : isSecond (UInt8.ofNat (0xC0 + n / 0x40)) (tailByte n) = true := by
    rw [isSecond_iff, ha]
    exact ⟨isTail_tailByte n, by omega⟩
  have hn : n / 0x40 * 0x40 + n % 0x40 = n := by omega
  rw [decodeFrom_two (by omega) (by omega) hb, payload_byte 0xC0 (by omega), payload_tailByte, hn]

/-- The second byte is large enough for a code point that needs three bytes, and not so large that
it would be one of a surrogate. -/
theorem decodeFrom_written_three (h : 0x800 ≤ n) (h' : n < 0x10000)
    (hvalid : n < 0xD800 ∨ 0xDFFF < n) :
    decodeFrom position
        (UInt8.ofNat (0xE0 + n / 0x1000) :: tailByte (n / 0x40) :: tailByte n :: rest) =
      (decodeFrom (position + 3) rest).map (Char.ofNat n :: ·) := by
  have ha : (UInt8.ofNat (0xE0 + n / 0x1000)).toNat = 0xE0 + n / 0x1000 := toNat_byte (by omega)
  have hb : isSecond (UInt8.ofNat (0xE0 + n / 0x1000)) (tailByte (n / 0x40)) = true := by
    rw [isSecond_iff, ha, toNat_tailByte]
    exact ⟨isTail_tailByte _, by omega⟩
  have hn : n / 0x1000 * 0x1000 + n / 0x40 % 0x40 * 0x40 + n % 0x40 = n := by omega
  rw [decodeFrom_three (by omega) (by omega) hb (isTail_tailByte n), payload_byte 0xE0 (by omega),
    payload_tailByte, payload_tailByte, hn]

/-- The second byte is large enough for four bytes, and the code point is not too large. -/
theorem decodeFrom_written_four (h : 0x10000 ≤ n) (h' : n < 0x110000) :
    decodeFrom position (UInt8.ofNat (0xF0 + n / 0x40000) :: tailByte (n / 0x1000) ::
        tailByte (n / 0x40) :: tailByte n :: rest) =
      (decodeFrom (position + 4) rest).map (Char.ofNat n :: ·) := by
  have ha : (UInt8.ofNat (0xF0 + n / 0x40000)).toNat = 0xF0 + n / 0x40000 := toNat_byte (by omega)
  have hb : isSecond (UInt8.ofNat (0xF0 + n / 0x40000)) (tailByte (n / 0x1000)) = true := by
    rw [isSecond_iff, ha, toNat_tailByte]
    exact ⟨isTail_tailByte _, by omega⟩
  have hn : n / 0x40000 * 0x40000 + n / 0x1000 % 0x40 * 0x1000 + n / 0x40 % 0x40 * 0x40 +
      n % 0x40 = n := by omega
  rw [decodeFrom_four (by omega) (by omega) hb (isTail_tailByte _) (isTail_tailByte n),
    payload_byte 0xF0 (by omega), payload_tailByte, payload_tailByte, payload_tailByte, hn]

/-- A character is read back from its bytes, and the rest is read after it. -/
theorem decodeFrom_encodeChar_append (c : Char) :
    decodeFrom position (encodeChar c ++ rest) =
      (decodeFrom (position + (encodeChar c).length) rest).map (c :: ·) := by
  have hvalid : c.toNat < 0xD800 ∨ 0xDFFF < c.toNat ∧ c.toNat < 0x110000 := c.valid
  have hc : Char.ofNat c.toNat = c := Char.ofNat_toNat c
  unfold encodeChar
  dsimp only
  -- One case for each length of a character.
  split
  · rename_i hone
    have ha : (UInt8.ofNat c.toNat).toNat = c.toNat := toNat_byte (by omega)
    rw [List.singleton_append, decodeFrom_one (by omega), ha, hc]
    rfl
  · split
    · rename_i hone htwo
      rw [List.cons_append, List.singleton_append,
        decodeFrom_written_two position rest (by omega) htwo, hc]
      rfl
    · split
      · rename_i hone htwo hthree
        rw [List.cons_append, List.cons_append, List.singleton_append,
          decodeFrom_written_three position rest (by omega) hthree (by omega), hc]
        rfl
      · rename_i hone htwo hthree
        rw [List.cons_append, List.cons_append, List.cons_append, List.singleton_append,
          decodeFrom_written_four position rest (by omega) (by omega), hc]
        rfl

end

theorem decodeFrom_encode (position : Nat) (t : Text) :
    decodeFrom position (encode t) = .ok t := by
  -- On the text, for every position, as each character moves it on.
  unfold encode
  induction t generalizing position with
  | nil => rfl
  | cons c rest ih =>
    rw [List.flatMap_cons, decodeFrom_encodeChar_append, ih]
    rfl

/-- A text is read back from its bytes. -/
theorem decode_encode (t : Text) : decode (encode t) = .ok t := decodeFrom_encode 0 t

end Cascade.Text.Utf8
