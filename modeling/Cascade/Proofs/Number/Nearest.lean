import Cascade.Number.Binary64
import Mathlib.Algebra.Field.Rat
import Mathlib.Algebra.Order.Field.Basic
import Mathlib.Algebra.Order.Ring.Rat
import Mathlib.Data.Nat.Cast.Order.Field
import Mathlib.Tactic.FieldSimp
import Mathlib.Tactic.Linarith
import Mathlib.Tactic.NormNum
import Mathlib.Tactic.Positivity
import Mathlib.Tactic.Ring

/-!
# The double nearest to a rational number

Rounding to nearest is specified without its algorithm (`IsNearest`), and the quotient of two
natural numbers is rounded that way (`isNearest_ofUnits`).
-/

namespace Cascade

/-! ## 1. The nearest integer -/

section
variable {num den : Nat}

/-- An integer that a quotient is rounded to is at most a half away. -/
theorem two_mul_abs_sub_roundDiv_le (num : Nat) (h : 0 < den) :
    2 * |(num : ℚ) / den - roundDiv num den| ≤ 1 := by
  have hden : (0 : ℚ) < den := by exact_mod_cast h
  have hupper : (2 : ℚ) * (roundDiv num den * den) ≤ 2 * num + den := by
    exact_mod_cast @two_mul_roundDiv_le num den h
  have hlower : (2 : ℚ) * num ≤ 2 * (roundDiv num den * den) + den := by
    exact_mod_cast @le_two_mul_roundDiv num den h
  have hquotient : (num : ℚ) / den - roundDiv num den = (num - roundDiv num den * den) / den := by
    field_simp
  rw [hquotient, abs_div, abs_of_pos hden, ← mul_div_assoc, div_le_one hden]
  have habs : |(num : ℚ) - roundDiv num den * den| ≤ den / 2 := by
    rw [abs_le]
    constructor <;> linarith
  linarith

theorem one_le_abs_sub {k n : Nat} (h : k ≠ n) : (1 : ℚ) ≤ |(k : ℚ) - n| := by
  have hint : (1 : ℤ) ≤ |(k : ℤ) - n| := Int.one_le_abs (by omega)
  exact_mod_cast hint

/-- No integer is nearer. -/
theorem abs_sub_roundDiv_le (h : 0 < den) (k : Nat) :
    |(num : ℚ) / den - roundDiv num den| ≤ |(num : ℚ) / den - k| := by
  by_cases hk : k = roundDiv num den
  · rw [hk]
  · have hhalf := two_mul_abs_sub_roundDiv_le num h
    have hapart := one_le_abs_sub hk
    have htriangle := abs_sub_le (k : ℚ) (num / den) (roundDiv num den)
    rw [abs_sub_comm (k : ℚ) (num / den)] at htriangle
    linarith

theorem two_mul_mod_of_half (h : 0 < den)
    (hhalf : 2 * |(num : ℚ) / den - roundDiv num den| = 1) : 2 * (num % den) = den := by
  have hden : (den : ℚ) ≠ 0 := by exact_mod_cast h.ne'
  have hdiv := Nat.div_add_mod num den
  have hmod := Nat.mod_lt num h
  have hlow := le_roundDiv num den
  have hhigh := roundDiv_le num den
  generalize roundDiv num den = n at *
  -- A distance of a half leaves two places for the quotient.
  have hsides : 2 * num = 2 * (den * n) + den ∨ 2 * num + den = 2 * (den * n) := by
    rcases abs_choice ((num : ℚ) / den - n) with habs | habs
    · left
      rw [habs] at hhalf
      field_simp at hhalf
      have : (2 : ℚ) * num = 2 * (den * n) + den := by linarith
      exact_mod_cast this
    · right
      rw [habs] at hhalf
      field_simp at hhalf
      have : (2 : ℚ) * num + den = 2 * (den * n) := by linarith
      exact_mod_cast this
  -- The integer is the quotient rounded down or the one above it.
  rcases (by omega : n = num / den ∨ n = num / den + 1) with rfl | rfl
  · omega
  · rw [Nat.mul_add] at hsides
    omega

/-- Only a half leaves two integers equally near, and it goes to the even one. -/
theorem even_roundDiv_of_tie (h : 0 < den) {k : Nat} (hk : k ≠ roundDiv num den)
    (htie : |(num : ℚ) / den - k| = |(num : ℚ) / den - roundDiv num den|) :
    roundDiv num den % 2 = 0 := by
  have hhalf := two_mul_abs_sub_roundDiv_le num h
  have hapart := one_le_abs_sub hk
  have htriangle := abs_sub_le (k : ℚ) (num / den) (roundDiv num den)
  rw [abs_sub_comm (k : ℚ) (num / den)] at htriangle
  apply roundDiv_even_of_half
  apply two_mul_mod_of_half h
  linarith

end

/-! ## 2. The nearest count of units -/

def place (units : Nat) : Nat := Nat.pow 2 (units.log2 - 52)

theorem place_eq (units : Nat) : place units = 2 ^ (units.log2 - 52) := rfl

theorem place_pos (units : Nat) : 0 < place units := Nat.two_pow_pos _

theorem lt_mul_place (units : Nat) : units < 2 ^ 53 * place units := by
  have hlog : units < 2 ^ (units.log2 + 1) := Nat.lt_log2_self
  have hpow : 2 ^ (units.log2 + 1) ≤ 2 ^ (53 + (units.log2 - 52)) :=
    Nat.pow_le_pow_right (by decide) (by omega)
  rw [place_eq, ← pow_add]
  omega

/-- The doubles among larger numbers are no closer to each other. -/
theorem place_dvd_place {u v : Nat} (h : u ≤ v) : place u ∣ place v := by
  have hlog : u.log2 ≤ v.log2 := by
    by_cases hu : u = 0
    · rw [hu]
      exact Nat.zero_le _
    · exact (Nat.le_log2 (by omega)).2 (le_trans (Nat.log2_self_le hu) h)
  exact pow_dvd_pow 2 (by omega)

/-- A double is a multiple of the place value of any number, or it lies below the number's own
binade. -/
theorem place_dvd_or_lt {v : Nat} (hv : place v ∣ v) (n : Nat) :
    place n ∣ v ∨ v < 2 ^ 52 * place n ∧ 2 ^ 52 * place n ≤ n := by
  by_cases h : n.log2 - 52 ≤ v.log2 - 52
  · left
    exact dvd_trans (pow_dvd_pow 2 h) hv
  · right
    have hbinade : 2 ^ 52 * place n = 2 ^ n.log2 := by
      rw [place_eq, ← pow_add]
      congr 1
      omega
    have hn : n ≠ 0 := by
      rintro rfl
      simp at h
    rw [hbinade]
    refine ⟨?_, Nat.log2_self_le hn⟩
    calc v < 2 ^ (v.log2 + 1) := Nat.lt_log2_self
      _ ≤ 2 ^ n.log2 := Nat.pow_le_pow_right (by decide) (by omega)

/-- Even multiples of a place value have an even last digit, also where they carry over. -/
theorem two_mul_place_dvd {m k : Nat} (hm : m ≤ 2 ^ 53) (heven : m % 2 = 0) :
    2 * place (m * 2 ^ k) ∣ m * 2 ^ k := by
  obtain ⟨a, rfl⟩ := Nat.dvd_of_mod_eq_zero heven
  by_cases hlog : (2 * a * 2 ^ k).log2 ≤ 52 + k
  · have hplace : place (2 * a * 2 ^ k) ∣ 2 ^ k := pow_dvd_pow 2 (by omega)
    have hdvd := mul_dvd_mul (dvd_mul_right 2 a) hplace
    exact hdvd
  -- Only the bound itself has more digits, and then all after the first are zero.
  · have hne : 2 * a * 2 ^ k ≠ 0 := by
      intro hzero
      rw [hzero] at hlog
      simp at hlog
    have hself := Nat.log2_self_le hne
    have hpow : 2 ^ (53 + k) ≤ 2 ^ (2 * a * 2 ^ k).log2 :=
      Nat.pow_le_pow_right (by decide) (by omega)
    have hle : 2 ^ 53 * 2 ^ k ≤ 2 * a * 2 ^ k := by
      rw [← pow_add]
      exact le_trans hpow hself
    have ha : 2 * a = 2 ^ 53 := le_antisymm hm (Nat.le_of_mul_le_mul_right hle (Nat.two_pow_pos k))
    rw [ha, ← pow_add, place_eq, Nat.log2_two_pow, ← pow_succ']
    exact pow_dvd_pow 2 (by omega)

section
variable {num den : Nat}

theorem roundUnits_eq (num den : Nat) :
    roundUnits num den = roundDiv num (den * place (num / den)) * place (num / den) := rfl

/-- Among multiples of a place value, distances are those of the integers that count them. -/
theorem abs_sub_mul_place (h : 0 < den) (k : Nat) :
    |(num : ℚ) / den - (k * place (num / den) : Nat)| =
      |(num : ℚ) / (den * place (num / den) : Nat) - k| * place (num / den) := by
  have hplace : (0 : ℚ) < place (num / den) := by exact_mod_cast place_pos _
  have hden : (den : ℚ) ≠ 0 := by exact_mod_cast h.ne'
  have hscale : (num : ℚ) / den - (k * place (num / den) : Nat) =
      ((num : ℚ) / (den * place (num / den) : Nat) - k) * place (num / den) := by
    push_cast
    field_simp
  rw [hscale, abs_mul, abs_of_pos hplace]

theorem abs_sub_roundUnits_le_mul_place (num : Nat) (h : 0 < den) (k : Nat) :
    |(num : ℚ) / den - roundUnits num den| ≤
      |(num : ℚ) / den - (k * place (num / den) : Nat)| := by
  have hpos : 0 < den * place (num / den) := Nat.mul_pos h (place_pos _)
  rw [roundUnits_eq, abs_sub_mul_place h, abs_sub_mul_place h]
  exact mul_le_mul_of_nonneg_right (abs_sub_roundDiv_le hpos k) (Nat.cast_nonneg _)

/-- The first double of the binade of a quotient is nearer to it than all doubles below. -/
theorem abs_sub_roundUnits_lt (h : 0 < den) {v : Nat} (hlt : v < 2 ^ 52 * place (num / den))
    (hle : 2 ^ 52 * place (num / den) ≤ num / den) :
    |(num : ℚ) / den - roundUnits num den| < |(num : ℚ) / den - v| := by
  have hfirst := abs_sub_roundUnits_le_mul_place num h (2 ^ 52)
  generalize 2 ^ 52 * place (num / den) = first at *
  have hquotient : (first : ℚ) ≤ num / den :=
    le_trans (by exact_mod_cast hle) (Nat.cast_div_le : ((num / den : Nat) : ℚ) ≤ num / den)
  have hv : (v : ℚ) < first := by exact_mod_cast hlt
  rw [abs_of_nonneg (by linarith : (0 : ℚ) ≤ num / den - first)] at hfirst
  rw [abs_of_pos (by linarith : (0 : ℚ) < num / den - v)]
  linarith

/-- No double is nearer to a quotient than the rounded one. -/
theorem abs_sub_roundUnits_le (num : Nat) (h : 0 < den) {v : Nat} (hv : place v ∣ v) :
    |(num : ℚ) / den - roundUnits num den| ≤ |(num : ℚ) / den - v| := by
  rcases place_dvd_or_lt hv (num / den) with ⟨k, rfl⟩ | ⟨hlt, hle⟩
  · rw [mul_comm]
    exact abs_sub_roundUnits_le_mul_place num h k
  · exact le_of_lt (abs_sub_roundUnits_lt h hlt hle)

/-- If another double is equally near, the last digit of the rounded one is even. -/
theorem two_mul_place_dvd_of_tie (h : 0 < den) {v : Nat} (hv : place v ∣ v)
    (hne : v ≠ roundUnits num den)
    (htie : |(num : ℚ) / den - v| = |(num : ℚ) / den - roundUnits num den|) :
    2 * place (roundUnits num den) ∣ roundUnits num den := by
  have hpos : 0 < den * place (num / den) := Nat.mul_pos h (place_pos _)
  have hplace : (place (num / den) : ℚ) ≠ 0 := by exact_mod_cast (place_pos _).ne'
  rcases place_dvd_or_lt hv (num / den) with ⟨k, rfl⟩ | ⟨hlt, hle⟩
  · rw [mul_comm] at hne htie
    rw [roundUnits_eq] at hne htie ⊢
    rw [abs_sub_mul_place h, abs_sub_mul_place h] at htie
    have hk : k ≠ roundDiv num (den * place (num / den)) := by
      rintro rfl
      exact hne rfl
    have heven := even_roundDiv_of_tie hpos hk (mul_right_cancel₀ hplace htie)
    exact two_mul_place_dvd (roundDiv_lastPlace_le num den) heven
  · exact absurd htie (ne_of_gt (abs_sub_roundUnits_lt h hlt hle))

end

/-! ## 3. The largest double -/

/-- Below a double with digits to spare, the doubles keep a distance of a whole place from it. -/
theorem le_of_place_dvd_of_lt {a u k : Nat} (ha : 2 ^ 52 < a) (hu : place u ∣ u)
    (hlt : u < a * 2 ^ k) : u + 2 ^ k ≤ a * 2 ^ k := by
  by_cases hlow : u < 2 ^ 52 * 2 ^ k
  · calc u + 2 ^ k ≤ (2 ^ 52 + 1) * 2 ^ k := by omega
      _ ≤ a * 2 ^ k := Nat.mul_le_mul_right _ ha
  · have hlog : 52 + k ≤ u.log2 := by
      rw [Nat.le_log2 (by have := Nat.two_pow_pos k; omega), pow_add]
      omega
    have hdvd : 2 ^ k ∣ u := dvd_trans (pow_dvd_pow 2 (by omega)) hu
    obtain ⟨b, rfl⟩ := hdvd
    rw [mul_comm] at hlt
    have hb : b < a := Nat.lt_of_mul_lt_mul_right hlt
    calc 2 ^ k * b + 2 ^ k = (b + 1) * 2 ^ k := by ring
      _ ≤ a * 2 ^ k := Nat.mul_le_mul_right _ hb

/-- The last double below a power of two is odd, so a tie with that power does not round to it. -/
theorem not_two_mul_place_dvd (k : Nat) :
    ¬ 2 * place ((2 ^ 53 - 1) * 2 ^ k) ∣ (2 ^ 53 - 1) * 2 ^ k := by
  have hpos : 0 < 2 ^ k := Nat.two_pow_pos k
  have hlog : 52 + k ≤ ((2 ^ 53 - 1) * 2 ^ k).log2 := by
    rw [Nat.le_log2 (by omega), pow_add]
    omega
  intro hdvd
  have hplace : 2 * 2 ^ k ∣ 2 * place ((2 ^ 53 - 1) * 2 ^ k) :=
    mul_dvd_mul_left 2 (pow_dvd_pow 2 (by omega))
  have htwo : 2 ∣ 2 ^ 53 - 1 := Nat.dvd_of_mul_dvd_mul_right hpos (dvd_trans hplace hdvd)
  omega

section
variable {num den : Nat}

/-- What is rounded below a power of two is less than half a place away from the last double below
it: in the middle the tie would go to the power. -/
theorem div_lt_of_roundUnits_lt (h : 0 < den) {k : Nat}
    (hlt : roundUnits num den < 2 ^ 53 * 2 ^ k) :
    (num : ℚ) / den < 2 ^ 53 * 2 ^ k - 2 ^ k / 2 := by
  have hpos : (0 : ℚ) < 2 ^ k := by positivity
  have hlast : (((2 ^ 53 - 1) * 2 ^ k : Nat) : ℚ) = 2 ^ 53 * 2 ^ k - 2 ^ k := by
    push_cast
    ring
  have hlimit : ((2 ^ 53 * 2 ^ k : Nat) : ℚ) = 2 ^ 53 * 2 ^ k := by
    push_cast
    ring
  by_contra hge
  have hle : (roundUnits num den : ℚ) + 2 ^ k ≤ 2 ^ 53 * 2 ^ k := by
    exact_mod_cast le_of_place_dvd_of_lt (by decide) (dvd_roundUnits num den) hlt
  have hgrid : place (2 ^ 53 * 2 ^ k) ∣ 2 ^ 53 * 2 ^ k := dvd_mul_two_pow (le_refl _)
  have hnear := abs_sub_roundUnits_le num h hgrid
  rw [hlimit, abs_of_pos (by linarith)] at hnear
  rcases le_total ((num : ℚ) / den) (2 ^ 53 * 2 ^ k) with hm | hm
  · -- The quotient is half way between the last double and the power.
    rw [abs_of_nonpos (by linarith)] at hnear
    have hround : roundUnits num den = (2 ^ 53 - 1) * 2 ^ k := by
      have : (roundUnits num den : ℚ) = ((2 ^ 53 - 1) * 2 ^ k : Nat) := by linarith
      exact_mod_cast this
    have htie : |(num : ℚ) / den - (2 ^ 53 * 2 ^ k : Nat)| =
        |(num : ℚ) / den - roundUnits num den| := by
      rw [hlimit, abs_of_nonpos (by linarith), abs_of_pos (by linarith)]
      linarith
    have hdvd := two_mul_place_dvd_of_tie h hgrid (ne_of_gt hlt) htie
    rw [hround] at hdvd
    exact not_two_mul_place_dvd k hdvd
  · rw [abs_of_nonneg (by linarith)] at hnear
    linarith

/-- Conversely, what is less than half a place above the last double is rounded to it at most. -/
theorem roundUnits_lt_of_div_lt (h : 0 < den) {k : Nat}
    (hlt : (num : ℚ) / den < 2 ^ 53 * 2 ^ k - 2 ^ k / 2) : roundUnits num den < 2 ^ 53 * 2 ^ k := by
  have hpos : (0 : ℚ) < 2 ^ k := by positivity
  have hlast : (((2 ^ 53 - 1) * 2 ^ k : Nat) : ℚ) = 2 ^ 53 * 2 ^ k - 2 ^ k := by
    push_cast
    ring
  by_contra hge
  have hle : (2 : ℚ) ^ 53 * 2 ^ k ≤ roundUnits num den := by
    exact_mod_cast Nat.le_of_not_lt hge
  have hgrid : place ((2 ^ 53 - 1) * 2 ^ k) ∣ (2 ^ 53 - 1) * 2 ^ k :=
    dvd_mul_two_pow (Nat.sub_le _ _)
  have hnear := abs_sub_roundUnits_le num h hgrid
  rw [hlast, abs_of_neg (by linarith)] at hnear
  rcases le_total ((num : ℚ) / den) (2 ^ 53 * 2 ^ k - 2 ^ k) with hm | hm
  · rw [abs_of_nonpos (by linarith)] at hnear
    linarith
  · rw [abs_of_nonneg (by linarith)] at hnear
    linarith

theorem roundUnits_lt_iff (h : 0 < den) (k : Nat) :
    roundUnits num den < 2 ^ 53 * 2 ^ k ↔ (num : ℚ) / den < 2 ^ 53 * 2 ^ k - 2 ^ k / 2 :=
  ⟨div_lt_of_roundUnits_lt h, roundUnits_lt_of_div_lt h⟩

end

/-! ## 4. The nearest double -/

def signed (negative : Bool) (m : ℚ) : ℚ := if negative then -m else m

theorem abs_signed (negative : Bool) (m : ℚ) : |signed negative m| = |m| := by
  cases negative
  · rfl
  · exact abs_neg m

theorem abs_signed_sub (negative : Bool) (a b : ℚ) :
    |signed negative a - signed negative b| = |a - b| := by
  cases negative
  · rfl
  · show |-a - -b| = |a - b|
    rw [neg_sub_neg, abs_sub_comm]

/-- Numbers on different sides of zero are as far apart as both are from zero. -/
theorem abs_signed_sub_of_ne {negative negative' : Bool} (h : negative' ≠ negative) {a b : ℚ}
    (ha : 0 ≤ a) (hb : 0 ≤ b) : |signed negative a - signed negative' b| = a + b := by
  cases negative <;> cases negative'
  · exact absurd rfl h
  · show |a - -b| = a + b
    rw [sub_neg_eq_add, abs_of_nonneg (add_nonneg ha hb)]
  · show |-a - b| = a + b
    rw [← neg_add', abs_neg, abs_of_nonneg (add_nonneg ha hb)]
  · exact absurd rfl h

theorem signed_injective (negative : Bool) {a b : ℚ} (h : signed negative a = signed negative b) :
    a = b := by
  cases negative
  · exact h
  · exact neg_injective h

theorem cast_unitsPerOne : (unitsPerOne : ℚ) = 2 ^ 1074 := by
  unfold unitsPerOne
  generalize 1074 = n
  exact Nat.cast_pow 2 n

theorem cast_unitsPerOne_pos : (0 : ℚ) < unitsPerOne := by
  exact_mod_cast unitsPerOne_pos

theorem unitLimit_eq : unitLimit = 2 ^ 53 * 2 ^ 2045 := by
  decide +kernel

namespace Binary64

def isNegative : Binary64 → Bool
  | .finite negative .. => negative
  | .infinite negative => negative
  | .nan => false

def toRat : Binary64 → ℚ
  | .finite negative units _ => signed negative (units / unitsPerOne)
  | _ => 0

def significand : Binary64 → Nat
  | .finite _ units _ => units / place units
  | _ => 0

/-- The number half way between the largest double and 2^1024, which would be the next one. -/
def overflow : ℚ := 2 ^ 1024 - 2 ^ 970

/-- The double that rounding to nearest gives: no other is nearer, and of two that are equally
near it is the one with the even significand.  A number that is too large has none. -/
structure IsNearest (q : ℚ) (x : Binary64) : Prop where
  abs_lt : |q| < overflow
  isFinite : x.isFinite = true
  abs_sub_le : ∀ y : Binary64, y.isFinite = true → |q - x.toRat| ≤ |q - y.toRat|
  even : ∀ y : Binary64, y.isFinite = true → y.toRat ≠ x.toRat →
    |q - y.toRat| = |q - x.toRat| → Even x.significand

theorem exists_finite_of_isFinite {x : Binary64} (h : x.isFinite = true) :
    ∃ negative units grid, x = .finite negative units grid := by
  cases x with
  | finite negative units grid => exact ⟨negative, units, grid, rfl⟩
  | infinite negative => cases h
  | nan => cases h

section
variable {negative : Bool} {units : Nat} {grid : IsGrid units}

/-- Distances of doubles are those of their counts of units. -/
theorem abs_sub_toRat (m : ℚ) :
    |signed negative (m / unitsPerOne) - (finite negative units grid).toRat| =
      |m - units| / unitsPerOne := by
  show |signed negative (m / unitsPerOne) - signed negative (units / unitsPerOne)| = _
  rw [abs_signed_sub, ← sub_div, abs_div, abs_of_pos cast_unitsPerOne_pos]

theorem exists_eq_signed (negative : Bool) (q : ℚ) :
    ∃ m : ℚ, q = signed negative (m / unitsPerOne) := by
  have hne := cast_unitsPerOne_pos.ne'
  refine ⟨signed negative q * unitsPerOne, ?_⟩
  rw [mul_div_cancel_right₀ _ hne]
  cases negative
  · rfl
  · exact (neg_neg q).symm

/-- The last digit is even when twice the place value still divides the units. -/
theorem even_significand_iff :
    Even (finite negative units grid).significand ↔ 2 * place units ∣ units := by
  have hplace : place units ∣ units := grid.2
  show Even (units / place units) ↔ _
  rw [even_iff_two_dvd, Nat.dvd_div_iff_mul_dvd hplace, mul_comm]

end

/-! ### There is only one -/

/-- Between two doubles with even significands there is another one. -/
theorem exists_isGrid_between {u v : Nat} (hu : 2 * place u ∣ u) (hv : 2 * place v ∣ v)
    (hlimit : v < unitLimit) (hlt : u < v) : ∃ w, IsGrid w ∧ u < w ∧ w < v := by
  have hpos := place_pos u
  have hstep : 2 * place u ∣ v - u :=
    Nat.dvd_sub (dvd_trans (mul_dvd_mul_left 2 (place_dvd_place hlt.le)) hv) hu
  have hle : 2 * place u ≤ v - u := Nat.le_of_dvd (by omega) hstep
  have hgrid : place (u + place u) ∣ u + place u := by
    obtain ⟨a, ha⟩ := dvd_trans (dvd_mul_left (place u) 2) hu
    have ha53 : place u * a < place u * 2 ^ 53 := by
      rw [← ha, mul_comm]
      exact lt_mul_place u
    have hsum : u + place u = (a + 1) * place u := by
      rw [add_mul, one_mul, mul_comm a, ← ha]
    rw [hsum]
    exact dvd_mul_two_pow (Nat.lt_of_mul_lt_mul_left ha53)
  exact ⟨u + place u, ⟨by omega, hgrid⟩, by omega, by omega⟩

/-- Of two equally near doubles with even significands the next one above the lower is nearer. -/
theorem not_lt_of_tie {m : ℚ} {u v : Nat} (hu : 2 * place u ∣ u) (hv : 2 * place v ∣ v)
    (hlimit : v < unitLimit) (htie : |m - u| = |m - v|)
    (hnear : ∀ w, IsGrid w → |m - u| ≤ |m - w|) : ¬ u < v := by
  intro hlt
  obtain ⟨w, hgrid, huw, hwv⟩ := exists_isGrid_between hu hv hlimit hlt
  have huw' : (u : ℚ) < w := by exact_mod_cast huw
  have hwv' : (w : ℚ) < v := by exact_mod_cast hwv
  -- The number lies half way between the two, and the third double within less than that.
  have hmiddle : m - u = v - m := by
    rcases abs_eq_abs.1 htie with h | h <;> linarith
  have hcloser : |m - w| < m - u := by
    rw [abs_lt]
    constructor <;> linarith
  have hnearest := hnear w hgrid
  rw [abs_of_pos (by linarith : 0 < m - u)] at hnearest
  linarith

/-- There is at most one nearest double of each sign. -/
theorem IsNearest.eq {q : ℚ} {x y : Binary64} (hx : IsNearest q x) (hy : IsNearest q y)
    (hsign : x.isNegative = y.isNegative) : x = y := by
  obtain ⟨negative, u, hu, rfl⟩ := exists_finite_of_isFinite hx.isFinite
  obtain ⟨negative', v, hv, rfl⟩ := exists_finite_of_isFinite hy.isFinite
  obtain rfl : negative = negative' := hsign
  by_cases huv : u = v
  · subst huv
    rfl
  · obtain ⟨m, rfl⟩ := exists_eq_signed negative q
    have hpos := cast_unitsPerOne_pos
    have hne : (finite negative v hv).toRat ≠ (finite negative u hu).toRat := by
      intro h
      have hunits := signed_injective negative h
      rw [div_left_inj' hpos.ne'] at hunits
      exact huv (by exact_mod_cast hunits.symm)
    -- Two nearest doubles are equally near, so both of them have even significands.
    have htie := le_antisymm (hx.abs_sub_le _ hy.isFinite) (hy.abs_sub_le _ hx.isFinite)
    have hueven := even_significand_iff.1 (hx.even _ hy.isFinite hne htie.symm)
    have hveven := even_significand_iff.1 (hy.even _ hx.isFinite hne.symm htie)
    rw [abs_sub_toRat, abs_sub_toRat, div_left_inj' hpos.ne'] at htie
    have hnear (w : Nat) (hw : IsGrid w) : |m - u| ≤ |m - w| := by
      have h := hx.abs_sub_le (finite negative w hw) rfl
      rw [abs_sub_toRat, abs_sub_toRat] at h
      exact (div_le_div_iff_of_pos_right hpos).1 h
    have hnear' (w : Nat) (hw : IsGrid w) : |m - v| ≤ |m - w| := by
      rw [← htie]
      exact hnear w hw
    rcases Nat.lt_or_gt_of_ne huv with hlt | hlt
    · exact absurd hlt (not_lt_of_tie hueven hveven hv.1 htie hnear)
    · exact absurd hlt (not_lt_of_tie hveven hueven hu.1 htie.symm hnear')

/-! ### Rounding gives it -/

/-- For every double there is one of the sign of the number that is as near, and strictly nearer
unless it has the same value. -/
theorem exists_isGrid_of_isFinite {m : ℚ} (hm : 0 ≤ m) (negative : Bool) {y : Binary64}
    (hy : y.isFinite = true) :
    ∃ v, IsGrid v ∧ |m - v| / unitsPerOne ≤ |signed negative (m / unitsPerOne) - y.toRat| ∧
      (|signed negative (m / unitsPerOne) - y.toRat| ≤ |m - v| / unitsPerOne →
        y.toRat = signed negative (v / unitsPerOne)) := by
  obtain ⟨negative', v, hv, rfl⟩ := exists_finite_of_isFinite hy
  by_cases hsign : negative' = negative
  · subst hsign
    rw [abs_sub_toRat]
    exact ⟨v, hv, le_refl _, fun _ => rfl⟩
  -- On the other side of zero, zero itself is nearer.
  · have hpos := cast_unitsPerOne_pos
    have hv0 : (0 : ℚ) ≤ v / unitsPerOne := div_nonneg (Nat.cast_nonneg v) hpos.le
    have hm0 : 0 ≤ m / unitsPerOne := div_nonneg hm hpos.le
    have hzero : |m - (0 : Nat)| / unitsPerOne = m / unitsPerOne := by
      rw [Nat.cast_zero, sub_zero, abs_of_nonneg hm]
    have hother : |signed negative (m / unitsPerOne) - (finite negative' v hv).toRat| =
        m / unitsPerOne + v / unitsPerOne := abs_signed_sub_of_ne hsign hm0 hv0
    refine ⟨0, isGrid_zero, ?_, ?_⟩
    · rw [hzero, hother]
      linarith
    · intro hle
      rw [hzero, hother] at hle
      have hvzero : (v : ℚ) / unitsPerOne = 0 := by linarith
      show signed negative' (v / unitsPerOne) = signed negative ((0 : Nat) / unitsPerOne)
      rw [hvzero, Nat.cast_zero, zero_div]
      cases negative <;> cases negative' <;> simp [signed]

theorem overflow_mul_unitsPerOne : overflow * unitsPerOne = 2 ^ 53 * 2 ^ 2045 - 2 ^ 2045 / 2 := by
  have hlimit : (2 : ℚ) ^ 1024 = 2 ^ 54 * 2 ^ 970 := by rw [← pow_add]
  have hunits : (2 : ℚ) ^ 970 * 2 ^ 1074 = 2 ^ 2044 := by rw [← pow_add]
  have hlast : (2 : ℚ) ^ 2045 = 2 * 2 ^ 2044 := by rw [← pow_succ']
  rw [overflow, cast_unitsPerOne, hlimit, hlast, ← hunits]
  generalize (2 : ℚ) ^ 970 = a
  generalize (2 : ℚ) ^ 1074 = b
  ring

section
variable {num den : Nat}

theorem abs_signed_lt_overflow_iff (h : 0 < den) (negative : Bool) :
    |signed negative ((num : ℚ) / den / unitsPerOne)| < overflow ↔
      roundUnits num den < unitLimit := by
  have hpos := cast_unitsPerOne_pos
  have hm : (0 : ℚ) ≤ num / den := div_nonneg (Nat.cast_nonneg _) (Nat.cast_nonneg _)
  have hquotient : (0 : ℚ) ≤ num / den / unitsPerOne := div_nonneg hm hpos.le
  rw [abs_signed, abs_of_nonneg hquotient, unitLimit_eq, roundUnits_lt_iff h, div_lt_iff₀ hpos,
    overflow_mul_unitsPerOne]

/-- A quotient overflows from half a place above the largest double on. -/
theorem isFinite_ofUnits_iff (h : 0 < den) (negative : Bool) :
    (ofUnits negative num den).isFinite = true ↔
      |signed negative ((num : ℚ) / den / unitsPerOne)| < overflow := by
  rw [abs_signed_lt_overflow_iff h, ofUnits]
  split <;> simp [isFinite, *]

theorem isNegative_ofUnits (negative : Bool) :
    (ofUnits negative num den).isNegative = negative := by
  unfold ofUnits
  split <;> rfl

/-- A quotient of units is rounded to the nearest double. -/
theorem isNearest_ofUnits (h : 0 < den) (negative : Bool)
    (hlt : |signed negative ((num : ℚ) / den / unitsPerOne)| < overflow) :
    IsNearest (signed negative ((num : ℚ) / den / unitsPerOne)) (ofUnits negative num den) := by
  have hpos := cast_unitsPerOne_pos
  have hm : (0 : ℚ) ≤ num / den := div_nonneg (Nat.cast_nonneg _) (Nat.cast_nonneg _)
  have hlimit := (abs_signed_lt_overflow_iff h negative).1 hlt
  have hgrid : IsGrid (roundUnits num den) := ⟨hlimit, dvd_roundUnits num den⟩
  have hround : ofUnits negative num den = finite negative (roundUnits num den) hgrid :=
    dif_pos hlimit
  rw [hround]
  refine ⟨hlt, rfl, ?_, ?_⟩
  · intro y hy
    obtain ⟨v, hv, hle, -⟩ := exists_isGrid_of_isFinite hm negative hy
    have hnear := abs_sub_roundUnits_le num h hv.2
    rw [abs_sub_toRat]
    exact le_trans (div_le_div_of_nonneg_right hnear hpos.le) hle
  · intro y hy hne htie
    -- A double that is equally near has the sign of the quotient, so it is a tie of units.
    obtain ⟨v, hv, hle, heq⟩ := exists_isGrid_of_isFinite hm negative hy
    have hnear := abs_sub_roundUnits_le num h hv.2
    rw [abs_sub_toRat] at htie
    have hunits : |(num : ℚ) / den - v| = |(num : ℚ) / den - roundUnits num den| := by
      rw [htie, div_le_div_iff_of_pos_right hpos] at hle
      exact le_antisymm hle hnear
    have hvalue : y.toRat = signed negative (v / unitsPerOne) := by
      apply heq
      rw [htie, hunits]
    have hv' : v ≠ roundUnits num den := by
      rintro rfl
      exact hne hvalue
    exact even_significand_iff.2 (two_mul_place_dvd_of_tie h hv.2 hv' hunits)

end

end Binary64
end Cascade
