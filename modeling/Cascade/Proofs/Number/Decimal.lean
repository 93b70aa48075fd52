import Cascade.Number.Numeral
import Cascade.Proofs.Number.Nearest
import Mathlib.Algebra.Order.Field.Power

/-!
# Decimal numerals as doubles

A numeral becomes the double nearest to the number it stands for.  Powers of ten beyond the range
are not formed on the way, which makes no difference to the result.
-/

namespace Cascade

/-! ## 1. Powers beyond the range -/

theorem two_pow_le_mul_ten_pow {k s e : Nat} (hs : s ≠ 0) (h : k ≤ s.log2 + 3 * e) :
    2 ^ k ≤ s * 10 ^ e := by
  calc 2 ^ k ≤ 2 ^ (s.log2 + 3 * e) := Nat.pow_le_pow_right (by decide) h
    _ = 2 ^ s.log2 * (2 ^ 3) ^ e := by rw [pow_add, pow_mul]
    _ ≤ s * 10 ^ e :=
        Nat.mul_le_mul (Nat.log2_self_le hs) (Nat.pow_le_pow_left (by decide) e)

theorem mul_two_pow_lt_ten_pow {k s e : Nat} (h : s.log2 + k + 1 ≤ 3 * e) :
    s * 2 ^ k < 10 ^ e := by
  calc s * 2 ^ k < 2 ^ (s.log2 + 1) * 2 ^ k :=
        Nat.mul_lt_mul_of_pos_right Nat.lt_log2_self (Nat.two_pow_pos k)
    _ = 2 ^ (s.log2 + 1 + k) := (pow_add 2 _ _).symm
    _ ≤ 2 ^ (3 * e) := Nat.pow_le_pow_right (by decide) (by omega)
    _ = 8 ^ e := pow_mul 2 3 e
    _ ≤ 10 ^ e := Nat.pow_le_pow_left (by decide) e

/-- A quotient beyond the range does not come back into it by rounding. -/
theorem unitLimit_le_roundUnits {num den : Nat} (h : 0 < den) (hle : unitLimit * den ≤ num) :
    unitLimit ≤ roundUnits num den := by
  have hden : (0 : ℚ) < den := by exact_mod_cast h
  have hhalf : (0 : ℚ) ≤ 2 ^ 2045 / 2 := by positivity
  have hquotient : (2 : ℚ) ^ 53 * 2 ^ 2045 ≤ num / den := by
    rw [unitLimit_eq] at hle
    rw [le_div_iff₀ hden]
    exact_mod_cast hle
  by_contra hlt
  rw [not_le, unitLimit_eq, roundUnits_lt_iff h] at hlt
  exact absurd hlt (not_lt_of_ge (le_trans (sub_le_self _ hhalf) hquotient))

/-- Less than half a unit is rounded to nothing. -/
theorem roundUnits_eq_zero {num den : Nat} (h : 2 * num < den) : roundUnits num den = 0 := by
  have hquotient : num / den = 0 := Nat.div_eq_of_lt (by omega)
  have hplace : place 0 = 1 := rfl
  rw [roundUnits_eq, hquotient, hplace, Nat.mul_one, Nat.mul_one]
  unfold roundDiv
  rw [Nat.mod_eq_of_lt (by omega), if_pos h, hquotient]

namespace Binary64

theorem ofUnits_eq_zero {negative : Bool} {num den : Nat} (h : roundUnits num den = 0) :
    ofUnits negative num den = zero negative := by
  unfold ofUnits
  rw [dif_pos (by rw [h]; exact unitLimit_pos)]
  simp only [h]
  rfl

theorem ofUnits_eq_infinite {negative : Bool} {num den : Nat}
    (h : unitLimit ≤ roundUnits num den) : ofUnits negative num den = .infinite negative :=
  dif_neg (not_lt_of_ge h)

theorem ofRatio_zero (negative : Bool) (den : Nat) (h : 0 < den) :
    ofRatio negative 0 den = zero negative := by
  apply ofUnits_eq_zero
  apply roundUnits_eq_zero
  rw [Nat.zero_mul]
  exact h

/-- A power of ten that is not formed makes the number too large for the range. -/
theorem ofDecimal_ofNat (negative : Bool) (s e : Nat) :
    ofDecimal negative s (.ofNat e) = ofRatio negative (s * Nat.pow 10 e) 1 := by
  by_cases hs : s = 0
  · rw [hs, Nat.zero_mul, ofRatio_zero negative 1 (by decide)]
    rfl
  · by_cases hlarge : 1024 ≤ s.log2 + 3 * e
    · have hpow : 2 ^ 1024 ≤ s * 10 ^ e := two_pow_le_mul_ten_pow hs hlarge
      have hlimit : unitLimit = 2 ^ 1024 * unitsPerOne := by decide +kernel
      have hround : unitLimit ≤ roundUnits (s * Nat.pow 10 e * unitsPerOne) 1 := by
        apply unitLimit_le_roundUnits (by decide)
        rw [Nat.mul_one, hlimit]
        exact Nat.mul_le_mul_right unitsPerOne hpow
      rw [ofRatio, ofUnits_eq_infinite hround, ofDecimal.eq_def, if_neg hs]
      exact if_pos hlarge
    · rw [ofDecimal.eq_def, if_neg hs]
      exact if_neg hlarge

/-- A power of ten that is not formed makes the number too small to be told from zero. -/
theorem ofDecimal_negSucc (negative : Bool) (s e : Nat) :
    ofDecimal negative s (.negSucc e) = ofRatio negative s (Nat.pow 10 (e + 1)) := by
  have hten : 0 < Nat.pow 10 (e + 1) := Nat.pow_pos (by decide)
  by_cases hs : s = 0
  · rw [hs, ofRatio_zero negative _ hten]
    rfl
  · by_cases hsmall : s.log2 + 1077 ≤ 3 * (e + 1)
    · have hpow : s * 2 ^ 1075 < 10 ^ (e + 1) := mul_two_pow_lt_ten_pow (by omega)
      have hunits : 2 * (s * unitsPerOne) = s * 2 ^ 1075 := by
        have htwo : 2 * unitsPerOne = 2 ^ 1075 := by decide +kernel
        rw [mul_left_comm, htwo]
      have hround : roundUnits (s * unitsPerOne) (Nat.pow 10 (e + 1)) = 0 := by
        apply roundUnits_eq_zero
        rw [hunits]
        exact hpow
      rw [ofRatio, ofUnits_eq_zero hround, ofDecimal.eq_def, if_neg hs]
      exact if_pos hsmall
    · rw [ofDecimal.eq_def, if_neg hs]
      exact if_neg hsmall

end Binary64

/-! ## 2. Numerals -/

namespace Numeral
open Binary64

def toRat (n : Numeral) : ℚ := signed n.negative (n.significand * 10 ^ n.exponent)

/-- Whatever the sign of its exponent, a numeral is a quotient of natural numbers that is rounded.
-/
theorem exists_toBinary64_eq_ofUnits (n : Numeral) :
    ∃ num den, 0 < den ∧ n.toBinary64 = ofUnits n.negative num den ∧
      n.toRat = signed n.negative (num / den / unitsPerOne) := by
  have hunits := cast_unitsPerOne_pos.ne'
  obtain ⟨negative, s, exponent⟩ := n
  -- The power of ten stands above or below, by the sign of the exponent.
  cases exponent with
  | ofNat e =>
    refine ⟨s * Nat.pow 10 e * unitsPerOne, 1, by decide, ofDecimal_ofNat negative s e, ?_⟩
    have hvalue : ((s * 10 ^ e * unitsPerOne : Nat) : ℚ) / (1 : Nat) / unitsPerOne =
        s * 10 ^ (Int.ofNat e) := by
      push_cast
      rw [div_one, mul_div_cancel_right₀ _ hunits, Int.ofNat_eq_natCast, zpow_natCast]
    exact congrArg (signed negative) hvalue.symm
  | negSucc e =>
    refine ⟨s * unitsPerOne, Nat.pow 10 (e + 1), Nat.pow_pos (by decide),
      ofDecimal_negSucc negative s e, ?_⟩
    have hvalue : ((s * unitsPerOne : Nat) : ℚ) / (10 ^ (e + 1) : Nat) / unitsPerOne =
        s * 10 ^ (Int.negSucc e) := by
      push_cast
      rw [zpow_negSucc]
      field_simp
    exact congrArg (signed negative) hvalue.symm

variable (n : Numeral)

theorem isFinite_toBinary64_iff : n.toBinary64.isFinite = true ↔ |n.toRat| < overflow := by
  obtain ⟨num, den, hden, hdouble, hvalue⟩ := exists_toBinary64_eq_ofUnits n
  rw [hdouble, hvalue]
  exact isFinite_ofUnits_iff hden n.negative

theorem isNegative_toBinary64 : n.toBinary64.isNegative = n.negative := by
  obtain ⟨num, den, -, hdouble, -⟩ := exists_toBinary64_eq_ofUnits n
  rw [hdouble]
  exact isNegative_ofUnits n.negative

/-- The double of a numeral is the nearest one. -/
theorem isNearest_toBinary64 (h : |n.toRat| < overflow) : IsNearest n.toRat n.toBinary64 := by
  obtain ⟨num, den, hden, hdouble, hvalue⟩ := exists_toBinary64_eq_ofUnits n
  rw [hvalue] at h ⊢
  rw [hdouble]
  exact isNearest_ofUnits hden n.negative h

end Numeral
end Cascade
