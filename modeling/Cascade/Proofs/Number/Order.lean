import Cascade.Proofs.Number.Nearest

/-!
# Rounding keeps the order

A larger quotient is never rounded to a smaller integer or double, and dividing a finite double by
three or more leaves it finite.
-/

namespace Cascade

/-! ## 1. The order -/

/-- What is at least as near to the larger one of two points lies on its side of the middle. -/
theorem add_le_two_mul_of_abs_sub_le {q a b : ℚ} (hlt : b < a) (h : |q - a| ≤ |q - b|) :
    a + b ≤ 2 * q := by
  -- Of distances only the squares are compared, which differ by a product.
  have hsquares : (q - a) ^ 2 ≤ (q - b) ^ 2 := sq_le_sq.2 h
  have hproduct : (a - b) * (a + b - 2 * q) ≤ 0 := by linarith
  have hsum : a + b - 2 * q ≤ 0 := by
    by_contra hpos
    have := mul_pos (sub_pos.2 hlt) (not_le.1 hpos)
    linarith
  linarith

/-- Nearest points in the wrong order would put the numbers on the wrong sides of the middle. -/
theorem le_of_nearest {q q' : ℚ} {u u' : Nat} (hlt : q < q') (h : |q - u| ≤ |q - u'|)
    (h' : |q' - u'| ≤ |q' - u|) : u ≤ u' := by
  by_contra hgt
  have horder : (u' : ℚ) < u := by exact_mod_cast Nat.lt_of_not_le hgt
  have hq : (u : ℚ) + u' ≤ 2 * q := add_le_two_mul_of_abs_sub_le horder h
  -- Seen from the other side of zero the smaller point is the larger one.
  have hq' : -(u' : ℚ) + -u ≤ 2 * -q' := by
    apply add_le_two_mul_of_abs_sub_le (neg_lt_neg horder)
    rwa [neg_sub_neg, neg_sub_neg, abs_sub_comm, abs_sub_comm (u : ℚ)]
  linarith

section
variable {num num' den : Nat}

theorem roundDiv_mono (h : 0 < den) (hle : num ≤ num') : roundDiv num den ≤ roundDiv num' den := by
  rcases Nat.eq_or_lt_of_le hle with rfl | hlt
  · exact le_refl _
  · have hden : (0 : ℚ) < den := by exact_mod_cast h
    have hquotients : (num : ℚ) / den < num' / den :=
      div_lt_div_of_pos_right (by exact_mod_cast hlt) hden
    exact le_of_nearest hquotients (abs_sub_roundDiv_le h _) (abs_sub_roundDiv_le h _)

theorem roundUnits_mono (h : 0 < den) (hle : num ≤ num') :
    roundUnits num den ≤ roundUnits num' den := by
  rcases Nat.eq_or_lt_of_le hle with rfl | hlt
  · exact le_refl _
  · have hden : (0 : ℚ) < den := by exact_mod_cast h
    have hquotients : (num : ℚ) / den < num' / den :=
      div_lt_div_of_pos_right (by exact_mod_cast hlt) hden
    exact le_of_nearest hquotients (abs_sub_roundUnits_le num h (dvd_roundUnits num' den))
      (abs_sub_roundUnits_le num' h (dvd_roundUnits num den))

/-- Rounding to a double moves a quotient by half a place of any bound of it at most. -/
theorem two_mul_abs_sub_roundUnits_le (h : 0 < den) {bound : Nat} (hle : num / den ≤ bound) :
    2 * |(num : ℚ) / den - roundUnits num den| ≤ place bound := by
  have hpos : 0 < den * place (num / den) := Nat.mul_pos h (place_pos _)
  have hplace : place (num / den) ≤ place bound :=
    Nat.le_of_dvd (place_pos bound) (place_dvd_place hle)
  have hhalf := two_mul_abs_sub_roundDiv_le num hpos
  rw [roundUnits_eq, abs_sub_mul_place h, ← mul_assoc]
  calc _ ≤ (place (num / den) : ℚ) := mul_le_of_le_one_left (Nat.cast_nonneg _) hhalf
    _ ≤ place bound := by exact_mod_cast hplace

/-- What is less than half away from an integer is rounded to it. -/
theorem roundDiv_eq_of_abs_sub_lt (h : 0 < den) {n : Nat} (hlt : 2 * |(num : ℚ) / den - n| < 1) :
    roundDiv num den = n := by
  by_contra hne
  have hhalf := two_mul_abs_sub_roundDiv_le num h
  have hapart := one_le_abs_sub hne
  have htriangle := abs_sub_le (roundDiv num den : ℚ) (num / den) n
  rw [abs_sub_comm (roundDiv num den : ℚ) (num / den)] at htriangle
  linarith

end

/-! ## 2. The range -/

theorem lastPlace_le (num den : Nat) : lastPlace num den ≤ num / den + 1 := by
  unfold lastPlace excessBits
  generalize num / den = q
  by_cases hq : q = 0
  · rw [hq]
    decide
  · have hpow : 2 ^ (q.log2 - 52) ≤ 2 ^ q.log2 := Nat.pow_le_pow_right (by decide) (by omega)
    have hself : 2 ^ q.log2 ≤ q := Nat.log2_self_le hq
    exact Nat.le_succ_of_le (Nat.le_trans hpow hself)

/-- Rounding adds no more than the place value of the last digit. -/
theorem roundUnits_le (num den : Nat) : roundUnits num den ≤ 2 * (num / den) + 1 := by
  have hplace := lastPlace_le num den
  have hround : roundDiv num (den * lastPlace num den) ≤ num / den / lastPlace num den + 1 := by
    rw [Nat.div_div_eq_div_mul]
    exact roundDiv_le _ _
  have hquotient : num / den / lastPlace num den * lastPlace num den ≤ num / den :=
    Nat.div_mul_le_self _ _
  calc roundUnits num den
      ≤ (num / den / lastPlace num den + 1) * lastPlace num den := Nat.mul_le_mul_right _ hround
    _ = num / den / lastPlace num den * lastPlace num den + lastPlace num den :=
        Nat.succ_mul _ _
    _ ≤ 2 * (num / den) + 1 := by omega

namespace Binary64

theorem isFinite_ofUnits (negative : Bool) {num den : Nat} (h : 2 * (num / den) + 1 < unitLimit) :
    (ofUnits negative num den).isFinite = true := by
  have hround := roundUnits_le num den
  unfold ofUnits
  rw [dif_pos (by omega)]
  rfl

theorem exists_eq_of_isFinite_ofUnits {negative : Bool} {num den : Nat}
    (h : (ofUnits negative num den).isFinite = true) :
    ∃ grid, ofUnits negative num den = .finite negative (roundUnits num den) grid := by
  unfold ofUnits at h ⊢
  by_cases hlimit : roundUnits num den < unitLimit
  · rw [dif_pos hlimit]
    exact ⟨_, rfl⟩
  · rw [dif_neg hlimit] at h
    cases h

theorem two_lt_unitLimit : 2 < unitLimit := by
  have hpos : 0 < 2 ^ 2045 := by positivity
  rw [unitLimit_eq]
  omega

/-- Rounding at most doubles a quotient and adds one unit, so a third stays below the limit. -/
theorem isFinite_divNat {x : Binary64} (h : x.isFinite = true) {n : Nat} (hn : 3 ≤ n) :
    (x.divNat n).isFinite = true := by
  cases x with
  | finite negative units grid =>
    have hunits : units < unitLimit := grid.1
    have hlimit := two_lt_unitLimit
    have hquotient : units / n ≤ units / 3 := Nat.div_le_div_left hn (by decide)
    show (ofUnits negative units n).isFinite = true
    exact isFinite_ofUnits negative (by omega)
  | infinite negative => exact h
  | nan => exact h

theorem finite_congr {negative negative' : Bool} {units units' : Nat} {grid : IsGrid units}
    {grid' : IsGrid units'} (hnegative : negative = negative') (hunits : units = units') :
    finite negative units grid = finite negative' units' grid' := by
  subst hnegative hunits
  rfl

/-- A finite double divided by a number is rounded to the nearest double and keeps its sign. -/
theorem isNearest_divNat {x : Binary64} (h : x.isFinite = true) {n : Nat} (hn : 3 ≤ n) :
    IsNearest (x.toRat / n) (x.divNat n) ∧ (x.divNat n).isNegative = x.isNegative := by
  have hfinite := isFinite_divNat h hn
  obtain ⟨negative, units, grid, rfl⟩ := exists_finite_of_isFinite h
  have hquotient : (finite negative units grid).toRat / n =
      signed negative ((units : ℚ) / n / unitsPerOne) := by
    show signed negative ((units : ℚ) / unitsPerOne) / n = _
    rw [div_right_comm]
    cases negative with
    | false => rfl
    | true => exact neg_div _ _
  rw [hquotient]
  have hpos : 0 < n := by omega
  exact ⟨isNearest_ofUnits hpos negative ((isFinite_ofUnits_iff hpos negative).1 hfinite),
    isNegative_ofUnits negative⟩

theorem one_eq :
    one = finite false (1 * unitsPerOne) (isGrid_mul_unitsPerOne (by decide : 1 ≤ Nat.pow 2 53)) :=
  ofNat_eq (by decide)

theorem isFinite_one : one.isFinite = true := by
  rw [one_eq]
  rfl

theorem same_one_iff {x : Binary64} : x.same one = true ↔ x = one := by
  constructor
  · intro h
    rw [one_eq] at h ⊢
    cases x with
    | finite negative units grid =>
      simp only [same, Bool.and_eq_true, Bool.or_eq_true, beq_iff_eq] at h
      have hpos := unitsPerOne_pos
      exact finite_congr (h.2.resolve_right (by omega)) h.1
    | infinite negative => cases h
    | nan => cases h
  · intro h
    rw [h]
    apply same_self
    rw [one_eq]
    exact Binary64.noConfusion

/-! ### The greatest doubles -/

def IsGreatest (x : Binary64) : Prop :=
  x.isFinite = true ∧ ∀ y : Binary64, y.isFinite = true → |y.toRat| ≤ |x.toRat|

def greatestUnits : Nat := (2 ^ 53 - 1) * 2 ^ 2045

theorem greatestUnits_add : greatestUnits + 2 ^ 2045 = unitLimit := by
  rw [unitLimit_eq, greatestUnits, Nat.sub_mul, Nat.one_mul]
  apply Nat.sub_add_cancel
  exact Nat.le_mul_of_pos_left _ (by decide)

theorem isGrid_greatestUnits : IsGrid greatestUnits := by
  constructor
  · have hpos : 0 < 2 ^ 2045 := by positivity
    rw [← greatestUnits_add]
    omega
  · unfold greatestUnits
    generalize 2045 = k
    exact dvd_mul_two_pow (by decide)

/-- No count of units of a double lies between the greatest one and the limit. -/
theorem le_greatestUnits {units : Nat} (grid : IsGrid units) : units ≤ greatestUnits := by
  have hlimit := grid.1
  rw [unitLimit_eq] at hlimit
  have hstep := le_of_place_dvd_of_lt (by decide) grid.2 hlimit
  rw [← unitLimit_eq, ← greatestUnits_add] at hstep
  exact Nat.le_of_add_le_add_right hstep

theorem abs_toRat_finite (negative : Bool) {units : Nat} (grid : IsGrid units) :
    |(finite negative units grid).toRat| = units / unitsPerOne := by
  show |signed negative (units / unitsPerOne)| = _
  rw [abs_signed, abs_of_nonneg]
  exact div_nonneg (Nat.cast_nonneg _) (Nat.cast_nonneg _)

theorem isGreatest_finite_iff {negative : Bool} {units : Nat} {grid : IsGrid units} :
    (finite negative units grid).IsGreatest ↔ units = greatestUnits := by
  constructor
  · rintro ⟨-, hle⟩
    have h := hle (finite false greatestUnits isGrid_greatestUnits) rfl
    rw [abs_toRat_finite, abs_toRat_finite, div_le_div_iff_of_pos_right cast_unitsPerOne_pos] at h
    exact le_antisymm (le_greatestUnits grid) (by exact_mod_cast h)
  · intro hunits
    refine ⟨rfl, ?_⟩
    intro y hy
    obtain ⟨negative', units', hgrid, rfl⟩ := exists_finite_of_isFinite hy
    rw [abs_toRat_finite, abs_toRat_finite, hunits,
      div_le_div_iff_of_pos_right cast_unitsPerOne_pos]
    exact_mod_cast le_greatestUnits hgrid

/-- There are two greatest doubles, one of each sign. -/
theorem isGreatest_iff {x : Binary64} :
    x.IsGreatest ↔ ∃ negative, x = finite negative greatestUnits isGrid_greatestUnits := by
  constructor
  · intro h
    obtain ⟨negative, units, grid, rfl⟩ := exists_finite_of_isFinite h.1
    exact ⟨negative, finite_congr rfl (isGreatest_finite_iff.1 h)⟩
  · rintro ⟨negative, rfl⟩
    exact isGreatest_finite_iff.2 rfl

end Binary64

end Cascade
