import Cascade.Number.Shortest
import Cascade.Proofs.Number.Decimal
import Cascade.Proofs.Number.Order

/-!
# The fewest digits that read back

The numeral printed for a double reads back as it (`toBinary64_shortest`), no numeral with fewer
digits does, and of those with as many none is nearer (`isShortest_shortest`).
-/

namespace Cascade

/-! ## 1. Doubles are apart -/

/-- From every double the others are at least one part in 2^53 of it away. -/
theorem le_mul_abs_sub {u v : Nat} (hu : place u ∣ u) (hv : place v ∣ v) (hne : v ≠ u) :
    (u : ℚ) ≤ 2 ^ 53 * |(u : ℚ) - v| := by
  have hlast := lt_mul_place u
  rcases Nat.lt_or_gt_of_ne hne with hlt | hgt
  · have hgap : u ≤ 2 ^ 53 * (u - v) := by
      rcases place_dvd_or_lt hv u with hdvd | ⟨hbelow, hfirst⟩
      · have hstep : place u ≤ u - v := Nat.le_of_dvd (by omega) (Nat.dvd_sub hu hdvd)
        omega
      -- Below the first double of a binade the doubles lie half as far apart.
      · cases hk : u.log2 - 52 with
        | zero =>
          rw [place_eq, hk, pow_zero] at hlast
          omega
        | succ k =>
          have hplace : 2 ^ 52 * place u = 2 ^ 53 * 2 ^ k := by
            rw [place_eq, hk, pow_succ' 2 k, ← mul_assoc, ← pow_succ]
          rw [hplace] at hbelow hfirst
          have hstep := le_of_place_dvd_of_lt (by decide : 2 ^ 52 < 2 ^ 53) hv hbelow
          generalize 2 ^ k = p at *
          omega
    have hcast : ((u - v : Nat) : ℚ) = u - v := Nat.cast_sub hlt.le
    rw [← hcast, Nat.abs_cast]
    exact_mod_cast hgap
  · have hstep : place u ≤ v - u :=
      Nat.le_of_dvd (by omega) (Nat.dvd_sub ((place_dvd_place hgt.le).trans hv) hu)
    have hgap : u ≤ 2 ^ 53 * (v - u) := by omega
    have hcast : ((v - u : Nat) : ℚ) = v - u := Nat.cast_sub hgt.le
    rw [abs_sub_comm, ← hcast, Nat.abs_cast]
    exact_mod_cast hgap

/-- What is less than half of that away from a double is rounded to it. -/
theorem roundUnits_eq_of_abs_sub_lt {num den u : Nat} (h : 0 < den) (hu : place u ∣ u)
    (hlt : 2 ^ 54 * |(num : ℚ) / den - u| < u) : roundUnits num den = u := by
  by_contra hne
  have hapart := le_mul_abs_sub hu (dvd_roundUnits num den) hne
  have hnear := abs_sub_roundUnits_le num h hu
  have htriangle := abs_sub_le (u : ℚ) (num / den) (roundUnits num den)
  rw [abs_sub_comm (u : ℚ) (num / den)] at htriangle
  linarith

/-! ## 2. What lies between -/

section
variable {q r q' a b : ℚ}

theorem abs_sub_le_abs_sub_iff : |q - a| ≤ |q - b| ↔ (a - b) * (a + b - 2 * q) ≤ 0 := by
  rw [← sq_le_sq]
  constructor <;> intro h <;> linarith

/-- The points that are nearer to one of two points lie on one side of the middle. -/
theorem abs_sub_le_of_between (hle : q ≤ r) (hle' : r ≤ q') (h : |q - a| ≤ |q - b|)
    (h' : |q' - a| ≤ |q' - b|) : |r - a| ≤ |r - b| := by
  rw [abs_sub_le_abs_sub_iff] at *
  rcases le_total a b with hab | hab
  · refine le_trans (mul_le_mul_of_nonpos_left ?_ (by linarith)) h'
    linarith
  · refine le_trans (mul_le_mul_of_nonneg_left ?_ (by linarith)) h
    linarith

end

namespace Binary64

section
variable {q r q' : ℚ} {x : Binary64}

/-- What lies between two numbers that are rounded to a double is rounded to it as well. -/
theorem isNearest_of_between (hle : q ≤ r) (hle' : r ≤ q') (h : IsNearest q x)
    (h' : IsNearest q' x) : IsNearest r x where
  abs_lt := by
    rw [abs_lt]
    exact ⟨(abs_lt.1 h.abs_lt).1.trans_le hle, hle'.trans_lt (abs_lt.1 h'.abs_lt).2⟩
  isFinite := h.isFinite
  abs_sub_le := by
    intro y hy
    exact abs_sub_le_of_between hle hle' (h.abs_sub_le y hy) (h'.abs_sub_le y hy)
  even := by
    intro y hy hne htie
    -- A tie is the middle, and one of the two numbers lies there as well.
    have hmiddle : 2 * r = x.toRat + y.toRat := by
      rcases abs_eq_abs.1 htie with heq | heq
      · exact absurd (by linarith) hne
      · linarith
    rcases lt_or_gt_of_ne hne with hlt | hgt
    · have hq := add_le_two_mul_of_abs_sub_le hlt (h.abs_sub_le y hy)
      obtain rfl : q = r := by linarith
      exact h.even y hy hne htie
    · have hq := abs_sub_le_abs_sub_iff.1 (h'.abs_sub_le y hy)
      have hsum : 0 ≤ x.toRat + y.toRat - 2 * q' := nonneg_of_mul_nonpos_right hq (by linarith)
      obtain rfl : q' = r := by linarith
      exact h'.even y hy hne htie

theorem isNearest_signed_of_between {negative : Bool} (hle : q ≤ r) (hle' : r ≤ q')
    (h : IsNearest (signed negative q) x) (h' : IsNearest (signed negative q') x) :
    IsNearest (signed negative r) x := by
  cases negative with
  | false => exact isNearest_of_between hle hle' h h'
  | true => exact isNearest_of_between (neg_le_neg hle') (neg_le_neg hle) h' h

end

/-- A finite double is the nearest one to itself. -/
theorem isNearest_toRat {x : Binary64} (h : x.isFinite = true) : IsNearest x.toRat x := by
  obtain ⟨negative, units, grid, rfl⟩ := exists_finite_of_isFinite h
  have hround : roundUnits units 1 = units := roundUnits_of_dvd grid.2
  have hfinite : ofUnits negative units 1 = finite negative units grid := by
    unfold ofUnits
    simp only [hround, grid.1, dite_true]
  have hvalue : (finite negative units grid).toRat =
      signed negative ((units : ℚ) / (1 : Nat) / unitsPerOne) := by
    rw [Nat.cast_one, div_one]
    rfl
  rw [hvalue, ← hfinite]
  apply isNearest_ofUnits Nat.one_pos
  rw [← isFinite_ofUnits_iff Nat.one_pos, hfinite]
  rfl

end Binary64

theorem Binary64.toRat_zero (negative : Bool) : (zero negative).toRat = 0 := by
  show signed negative ((0 : Nat) / unitsPerOne) = 0
  rw [Nat.cast_zero, zero_div, signed, neg_zero, ite_self]

/-- A numeral becomes a double if that is nearest to its number and has its sign. -/
theorem Numeral.toBinary64_eq_iff {n : Numeral} {x : Binary64} (h : x.isFinite = true) :
    n.toBinary64 = x ↔ Binary64.IsNearest n.toRat x ∧ x.isNegative = n.negative := by
  constructor
  · rintro rfl
    exact ⟨n.isNearest_toBinary64 (n.isFinite_toBinary64_iff.1 h), n.isNegative_toBinary64⟩
  · rintro ⟨hnearest, hsign⟩
    exact (n.isNearest_toBinary64 hnearest.abs_lt).eq hnearest
      (n.isNegative_toBinary64.trans hsign.symm)

/-! ## 3. The first digit -/

theorem ten_pow_le_of_ne_zero {n : Nat} (h : n ≠ 0) :
    10 ^ ((Nat.toDigits 10 n).length - 1) ≤ n := by
  by_cases hone : (Nat.toDigits 10 n).length - 1 = 0
  · rw [hone]
    omega
  · by_contra hlt
    have hlength := (Nat.length_toDigits_le_iff (by decide) (by omega)).2 (not_le.1 hlt)
    omega

theorem lt_ten_pow_length_toDigits (n : Nat) : n < 10 ^ (Nat.toDigits 10 n).length :=
  (Nat.length_toDigits_le_iff (by decide) Nat.length_toDigits_pos).1 (le_refl _)

/-- The digits before the point of a quotient, read with the point moved by a number of places. -/
theorem ten_pow_le_div {num den k : Nat} (hden : 0 < den) (h : den ≤ num * 10 ^ k) :
    (10 : ℚ) ^ (((Nat.toDigits 10 (num * 10 ^ k / den)).length : Int) - (k + 1 : Nat)) ≤
        num / den ∧
      (num : ℚ) / den <
        10 ^ (((Nat.toDigits 10 (num * 10 ^ k / den)).length : Int) - (k + 1 : Nat) + 1) := by
  have hten : (0 : ℚ) < 10 ^ k := by positivity
  have hpos : (0 : ℚ) < den := by exact_mod_cast hden
  have hquotient : num * 10 ^ k / den ≠ 0 := (Nat.div_pos h hden).ne'
  have hfirst := ten_pow_le_of_ne_zero hquotient
  have hlast := lt_ten_pow_length_toDigits (num * 10 ^ k / den)
  have hlength : 0 < (Nat.toDigits 10 (num * 10 ^ k / den)).length := Nat.length_toDigits_pos
  generalize (Nat.toDigits 10 (num * 10 ^ k / den)).length = l at *
  constructor
  · have hexponent : (l : Int) - (k + 1 : Nat) = (l - 1 : Nat) - (k : Int) := by omega
    rw [hexponent, zpow_sub₀ (by norm_num), zpow_natCast, zpow_natCast, div_le_div_iff₀ hten hpos]
    exact_mod_cast (Nat.le_div_iff_mul_le hden).1 hfirst
  · have hexponent : (l : Int) - (k + 1 : Nat) + 1 = l - (k : Int) := by omega
    rw [hexponent, zpow_sub₀ (by norm_num), zpow_natCast, zpow_natCast, div_lt_div_iff₀ hpos hten]
    exact_mod_cast (Nat.div_lt_iff_lt_mul hden).1 hlast

namespace Binary64

/-- The first digit of a double stands at its leading exponent. -/
theorem ten_pow_leadingExponent_le {units : Nat} (h : units ≠ 0) :
    (10 : ℚ) ^ leadingExponent units ≤ units / unitsPerOne ∧
      (units : ℚ) / unitsPerOne < 10 ^ (leadingExponent units + 1) := by
  have hscale : unitsPerOne ≤ Nat.pow 10 400 := by decide +kernel
  have hplaces : (401 : Int) = (400 + 1 : Nat) := rfl
  rw [leadingExponent, hplaces]
  generalize 400 = places at *
  exact ten_pow_le_div unitsPerOne_pos (hscale.trans (Nat.le_mul_of_pos_left _ (by omega)))

/-- The scaled quotient is the double divided by the power of ten. -/
theorem scaled_spec (units : Nat) (e : Int) :
    0 < (scaled units e).2 ∧
      ((scaled units e).1 : ℚ) / (scaled units e).2 = units / unitsPerOne / 10 ^ e := by
  have hpos := unitsPerOne_pos
  unfold scaled
  generalize unitsPerOne = one at *
  cases e with
  | ofNat e =>
    refine ⟨Nat.mul_pos hpos (Nat.pow_pos (by decide)), ?_⟩
    simp only [Nat.pow_eq, Nat.cast_mul, Nat.cast_pow, Int.ofNat_eq_natCast, zpow_natCast, div_div,
      Nat.cast_ofNat]
  | negSucc e =>
    refine ⟨hpos, ?_⟩
    simp only [Nat.pow_eq, Nat.cast_mul, Nat.cast_pow, zpow_negSucc, div_inv_eq_mul,
      div_mul_eq_mul_div, Nat.cast_ofNat]

end Binary64

/-! ## 4. The nearest of those that read back -/

section
variable {num den j : Nat}

/-- From above, the integer just below a quotient is the first one met. -/
theorem abs_sub_div_le_of_le (hle : j ≤ num / den) :
    |(num : ℚ) / den - (num / den : Nat)| ≤ |(num : ℚ) / den - j| := by
  have hfloor : ((num / den : Nat) : ℚ) ≤ num / den := Nat.cast_div_le
  have hj : (j : ℚ) ≤ (num / den : Nat) := by exact_mod_cast hle
  rw [abs_of_nonneg (by linarith), abs_of_nonneg (by linarith)]
  linarith

theorem div_lt_div_add_one (h : 0 < den) : (num : ℚ) / den < (num / den + 1 : Nat) := by
  rw [div_lt_iff₀ (by exact_mod_cast h)]
  exact_mod_cast Nat.lt_mul_of_div_lt (Nat.lt_succ_self _) h

theorem abs_sub_div_add_one_le_of_lt (h : 0 < den) (hlt : num / den < j) :
    |(num : ℚ) / den - (num / den + 1 : Nat)| ≤ |(num : ℚ) / den - j| := by
  have hceiling : (num : ℚ) / den < (num / den + 1 : Nat) := div_lt_div_add_one h
  have hj : ((num / den + 1 : Nat) : ℚ) ≤ j := by exact_mod_cast hlt
  rw [abs_of_nonpos (by linarith), abs_of_nonpos (by linarith)]
  linarith

/-- Where the integers with a property lie together around a quotient, a nearest one of them is
among its neighbours. -/
theorem exists_find?_roundDiv {p : Nat → Bool} (h : 0 < den)
    (hbelow : j ≤ num / den → p (num / den) = true)
    (habove : num / den < j → p (num / den + 1) = true) :
    ∃ n, [roundDiv num den, num / den, num / den + 1].find? p = some n ∧
      |(num : ℚ) / den - n| ≤ |(num : ℚ) / den - j| := by
  by_cases hround : p (roundDiv num den) = true
  · exact ⟨_, List.find?_cons_of_pos hround, abs_sub_roundDiv_le h j⟩
  · rw [List.find?_cons_of_neg hround]
    by_cases hfloor : p (num / den) = true
    · refine ⟨_, List.find?_cons_of_pos hfloor, ?_⟩
      by_cases hj : j ≤ num / den
      · exact abs_sub_div_le_of_le hj
      -- The nearest integer is the other neighbour, and it would do.
      · have hceiling := habove (not_le.1 hj)
        have hlow := le_roundDiv num den
        have hhigh := roundDiv_le num den
        rcases (by omega : roundDiv num den = num / den ∨ roundDiv num den = num / den + 1) with
          heq | heq
        · exact absurd (heq ▸ hfloor) hround
        · exact absurd (heq ▸ hceiling) hround
    · have hj : num / den < j := not_le.1 fun hj => hfloor (hbelow hj)
      rw [List.find?_cons_of_neg hfloor]
      exact ⟨_, List.find?_cons_of_pos (habove hj), abs_sub_div_add_one_le_of_lt h hj⟩

end

/-- A search from zero on stops at the first index where there is something. -/
theorem findSome?_range_eq {α : Type} {f : Nat → Option α} {i n : Nat} {a : α} (hi : i < n)
    (hlow : ∀ j < i, f j = none) (ha : f i = some a) : (List.range n).findSome? f = some a := by
  rw [List.findSome?_eq_some_iff]
  refine ⟨List.range i, i, (List.range (n - i - 1)).map (i + 1 + ·), ?_, ha, ?_⟩
  · have hsplit : n = i + 1 + (n - i - 1) := by omega
    rw [hsplit, List.range_add, List.range_succ, ← hsplit, List.append_assoc]
    rfl
  · intro j hj
    exact hlow j (List.mem_range.1 hj)

namespace Binary64

section
variable {negative : Bool} {units : Nat} {grid : IsGrid units}

theorem isNearest_finite : IsNearest (signed negative (units / unitsPerOne))
    (finite negative units grid) := by
  show IsNearest (finite negative units grid).toRat (finite negative units grid)
  exact isNearest_toRat rfl

theorem toBinary64_eq_finite_iff {s : Nat} {e : Int} :
    (⟨negative, s, e⟩ : Numeral).toBinary64 = finite negative units grid ↔
      IsNearest (signed negative (s * 10 ^ e)) (finite negative units grid) := by
  rw [Numeral.toBinary64_eq_iff rfl]
  exact and_iff_left rfl

/-- What lies on the way from a numeral that reads back to the double itself reads back. -/
theorem toBinary64_eq_finite_of_between {s s' : Nat} {e e' : Int}
    (h : (⟨negative, s, e⟩ : Numeral).toBinary64 = finite negative units grid)
    (hbetween : (s : ℚ) * 10 ^ e ≤ s' * 10 ^ e' ∧ (s' : ℚ) * 10 ^ e' ≤ units / unitsPerOne ∨
      (units : ℚ) / unitsPerOne ≤ s' * 10 ^ e' ∧ (s' : ℚ) * 10 ^ e' ≤ s * 10 ^ e) :
    (⟨negative, s', e'⟩ : Numeral).toBinary64 = finite negative units grid := by
  rw [toBinary64_eq_finite_iff] at *
  rcases hbetween with ⟨hle, hle'⟩ | ⟨hle, hle'⟩
  · exact isNearest_signed_of_between hle hle' h isNearest_finite
  · exact isNearest_signed_of_between hle hle' isNearest_finite h

/-- Distances from a double are counted in units of the power of ten. -/
theorem abs_sub_scaled (e : Int) (s : Nat) :
    |(units : ℚ) / unitsPerOne - s * 10 ^ e| =
      |((scaled units e).1 : ℚ) / (scaled units e).2 - s| * 10 ^ e := by
  have hten : (0 : ℚ) < 10 ^ e := by positivity
  rw [(scaled_spec units e).2, ← abs_of_pos hten, ← abs_mul, abs_of_pos hten, sub_mul,
    div_mul_cancel₀ _ hten.ne']

theorem neighbours_succ (leading : Int) (i : Nat) :
    neighbours negative units leading (i + 1) =
      [roundDiv (scaled units (leading - i)).1 (scaled units (leading - i)).2,
        (scaled units (leading - i)).1 / (scaled units (leading - i)).2,
        (scaled units (leading - i)).1 / (scaled units (leading - i)).2 + 1].map
          (⟨negative, ·, leading - i⟩) := rfl

theorem le_of_mem_neighbours {leading : Int} {i : Nat} {n : Numeral}
    (h : n ∈ neighbours negative units leading (i + 1)) :
    ∃ s, n = ⟨negative, s, leading - i⟩ ∧
      s ≤ (scaled units (leading - i)).1 / (scaled units (leading - i)).2 + 1 := by
  rw [neighbours_succ] at h
  obtain ⟨s, hs, rfl⟩ := List.mem_map.1 h
  refine ⟨s, rfl, ?_⟩
  have hround := roundDiv_le (scaled units (leading - i)).1 (scaled units (leading - i)).2
  simp only [List.mem_cons, List.not_mem_nil, or_false] at hs
  omega

/-- If a number with so many digits reads back, then one of the neighbours does, and it is no
farther away. -/
theorem exists_find?_neighbours {leading : Int} {i j : Nat}
    (hj : (⟨negative, j, leading - i⟩ : Numeral).toBinary64 = finite negative units grid) :
    ∃ s : Nat, (neighbours negative units leading (i + 1)).find?
        (fun n => n.toBinary64 = finite negative units grid) =
          some ⟨negative, s, leading - i⟩ ∧
      |(units : ℚ) / unitsPerOne - s * 10 ^ (leading - i)| ≤
        |(units : ℚ) / unitsPerOne - j * 10 ^ (leading - i)| := by
  rw [neighbours_succ, List.find?_map]
  simp only [abs_sub_scaled]
  obtain ⟨hden, hvalue⟩ := scaled_spec units (leading - i)
  generalize (scaled units (leading - i)).1 = num at *
  generalize (scaled units (leading - i)).2 = den at *
  generalize leading - (i : Int) = e at *
  have hten : (0 : ℚ) < 10 ^ e := by positivity
  rw [eq_div_iff hten.ne'] at hvalue
  -- The neighbour on the side of the number lies between it and the double.
  have hbelow : j ≤ num / den →
      (⟨negative, num / den, e⟩ : Numeral).toBinary64 = finite negative units grid := by
    intro hle
    have hfloor : ((num / den : Nat) : ℚ) ≤ num / den := Nat.cast_div_le
    refine toBinary64_eq_finite_of_between hj (Or.inl ⟨?_, ?_⟩)
    · exact mul_le_mul_of_nonneg_right (by exact_mod_cast hle) hten.le
    · rw [← hvalue]
      exact mul_le_mul_of_nonneg_right hfloor hten.le
  have habove : num / den < j →
      (⟨negative, num / den + 1, e⟩ : Numeral).toBinary64 = finite negative units grid := by
    intro hlt
    refine toBinary64_eq_finite_of_between hj (Or.inr ⟨?_, ?_⟩)
    · rw [← hvalue]
      exact mul_le_mul_of_nonneg_right (div_lt_div_add_one hden).le hten.le
    · exact mul_le_mul_of_nonneg_right (by exact_mod_cast hlt) hten.le
  obtain ⟨s, hs, hnearer⟩ := exists_find?_roundDiv
    (p := fun s => decide ((⟨negative, s, e⟩ : Numeral).toBinary64 = finite negative units grid))
    hden (fun hle => decide_eq_true (hbelow hle)) (fun hlt => decide_eq_true (habove hlt))
  exact ⟨s, Option.map_eq_some_iff.2 ⟨s, hs, rfl⟩, mul_le_mul_of_nonneg_right hnearer hten.le⟩

/-! ## 5. The shortest -/

/-- A numeral that is off by less than 2^-54 of a double is read as that double. -/
theorem toBinary64_eq_finite_of_abs_sub_lt {s : Nat} {e : Int}
    (h : 2 ^ 54 * |(units : ℚ) / unitsPerOne - s * 10 ^ e| < units / unitsPerOne) :
    (⟨negative, s, e⟩ : Numeral).toBinary64 = finite negative units grid := by
  have hpos := cast_unitsPerOne_pos
  obtain ⟨num, den, hden, hdouble, hvalue⟩ :=
    Numeral.exists_toBinary64_eq_ofUnits ⟨negative, s, e⟩
  have hmagnitude : (s : ℚ) * 10 ^ e = num / den / unitsPerOne := signed_injective negative hvalue
  have hround : roundUnits num den = units := by
    apply roundUnits_eq_of_abs_sub_lt hden grid.2
    rwa [hmagnitude, ← sub_div, abs_div, abs_of_pos hpos, ← mul_div_assoc,
      div_lt_div_iff_of_pos_right hpos, abs_sub_comm] at h
  rw [hdouble]
  unfold ofUnits
  simp only [hround, grid.1, dite_true]

/-- With seventeen digits the nearest number reads back. -/
theorem toBinary64_seventeen_digits (hunits : units ≠ 0) :
    ∃ s : Nat, (⟨negative, s, leadingExponent units - (16 : Nat)⟩ : Numeral).toBinary64 =
      finite negative units grid := by
  have hfirst := (ten_pow_leadingExponent_le hunits).1
  have hden := (scaled_spec units (leadingExponent units - (16 : Nat))).1
  have hround := two_mul_abs_sub_roundDiv_le
    (scaled units (leadingExponent units - (16 : Nat))).1 hden
  refine ⟨roundDiv (scaled units (leadingExponent units - (16 : Nat))).1
    (scaled units (leadingExponent units - (16 : Nat))).2, ?_⟩
  apply toBinary64_eq_finite_of_abs_sub_lt
  rw [abs_sub_scaled]
  have hplaces : (10 : ℚ) ^ leadingExponent units =
      10 ^ 16 * 10 ^ (leadingExponent units - (16 : Nat)) := by
    rw [zpow_sub₀ (by norm_num), zpow_natCast, mul_div_cancel₀ _ (by norm_num)]
  rw [hplaces] at hfirst
  have hten : (0 : ℚ) < 10 ^ (leadingExponent units - (16 : Nat)) := by positivity
  have herror := mul_le_mul_of_nonneg_right hround hten.le
  generalize (10 : ℚ) ^ (leadingExponent units - (16 : Nat)) = place at *
  linarith

structure IsFound (negative : Bool) (units : Nat) (grid : IsGrid units) (i s : Nat) : Prop where
  le : s ≤ 10 ^ (i + 1)
  readsBack : (⟨negative, s, leadingExponent units - i⟩ : Numeral).toBinary64 =
    finite negative units grid
  least : ∀ i' j : Nat, (⟨negative, j, leadingExponent units - i'⟩ : Numeral).toBinary64 =
    finite negative units grid → i ≤ i'
  nearest : ∀ j : Nat, (⟨negative, j, leadingExponent units - i⟩ : Numeral).toBinary64 =
    finite negative units grid →
      |(units : ℚ) / unitsPerOne - s * 10 ^ (leadingExponent units - i)| ≤
        |(units : ℚ) / unitsPerOne - j * 10 ^ (leadingExponent units - i)|

/-- In front of the point the scaled quotient has one digit more than places were moved. -/
theorem scaled_div_lt (hunits : units ≠ 0) (i : Nat) :
    (scaled units (leadingExponent units - i)).1 / (scaled units (leadingExponent units - i)).2 <
      10 ^ (i + 1) := by
  obtain ⟨hden, hvalue⟩ := scaled_spec units (leadingExponent units - i)
  have hten : (0 : ℚ) < 10 ^ (leadingExponent units - i) := by positivity
  have hplaces : (10 : ℚ) ^ (leadingExponent units + 1) =
      10 ^ (i + 1) * 10 ^ (leadingExponent units - i) := by
    rw [← zpow_natCast, ← zpow_add₀ (by norm_num)]
    congr 1
    omega
  -- Moved so far, the double is below the next power of ten.
  have hlast := (ten_pow_leadingExponent_le hunits).2
  rw [hplaces, ← div_lt_iff₀ hten, ← hvalue, div_lt_iff₀ (by exact_mod_cast hden)] at hlast
  exact (Nat.div_lt_iff_lt_mul hden).2 (by exact_mod_cast hlast)

/-- The search ends at the least number of digits for which any number reads back. -/
theorem shortest_eq_of_isFound (negative : Bool) (grid : IsGrid units) (hunits : units ≠ 0) :
    ∃ i s : Nat, shortest negative units grid = ⟨negative, s, leadingExponent units - i⟩ ∧
      IsFound negative units grid i s := by
  have hsome : ∃ i j : Nat, (⟨negative, j, leadingExponent units - i⟩ : Numeral).toBinary64 =
      finite negative units grid := ⟨16, toBinary64_seventeen_digits hunits⟩
  classical
  -- With fewer digits than these none of the neighbours reads back.
  obtain ⟨j, hj⟩ := Nat.find_spec hsome
  have hleast : ∀ i' j : Nat, (⟨negative, j, leadingExponent units - i'⟩ : Numeral).toBinary64 =
      finite negative units grid → Nat.find hsome ≤ i' := fun i' j h => Nat.find_min' hsome ⟨j, h⟩
  have hsixteen : Nat.find hsome ≤ 16 := Nat.find_min' hsome (toBinary64_seventeen_digits hunits)
  generalize Nat.find hsome = i at *
  obtain ⟨s, hs, -⟩ := exists_find?_neighbours hj
  obtain ⟨s', heq, hle⟩ := le_of_mem_neighbours (List.mem_of_find?_eq_some hs)
  obtain rfl : s = s' := congrArg Numeral.significand heq
  refine ⟨i, s, ?_, hle.trans (scaled_div_lt hunits i), ?_, hleast, ?_⟩
  · unfold shortest
    dsimp only
    rw [findSome?_range_eq (by omega : i < 17) _ hs, Option.getD_some]
    intro i' hi'
    rw [List.find?_eq_none]
    intro n hn hread
    obtain ⟨s', rfl, -⟩ := le_of_mem_neighbours hn
    exact absurd (hleast i' s' (of_decide_eq_true hread)) (not_le.2 hi')
  · have hread := List.find?_some hs
    exact of_decide_eq_true hread
  · intro j hj
    obtain ⟨s', hs', hnearer⟩ := exists_find?_neighbours hj
    rw [hs] at hs'
    obtain rfl : s = s' := congrArg Numeral.significand (Option.some.inj hs')
    exact hnearer

end

end Binary64

/-! ## 6. Significant digits -/

/-- The final zeros of a number are a power of ten that divides it. -/
theorem exists_toDigits_eq_append {n : Nat} (h : n ≠ 0) :
    ∃ t a, n = t * 10 ^ a ∧ t % 10 ≠ 0 ∧
      Nat.toDigits 10 n = Nat.toDigits 10 t ++ List.replicate a '0' := by
  induction n using Nat.strongRecOn with
  | _ n ih =>
    by_cases hlast : n % 10 = 0
    · obtain ⟨t, a, hn, ht, hdigits⟩ := ih (n / 10) (by omega) (by omega)
      refine ⟨t, a + 1, ?_, ht, ?_⟩
      · rw [pow_succ, ← mul_assoc, ← hn]
        omega
      · rw [Nat.toDigits_eq_if (by decide), if_neg (by omega), hdigits, hlast,
          List.replicate_succ', List.append_assoc]
        rfl
    · exact ⟨n, 0, by simp, hlast, by simp⟩

/-- Taking the final zeros off stops at a last digit other than zero. -/
theorem dropZeros_toDigits {t : Nat} (h : t % 10 ≠ 0) (a : Nat) :
    ((Nat.toDigits 10 t ++ List.replicate a '0').reverse.dropWhile (· = '0')).reverse =
      Nat.toDigits 10 t := by
  have hlast : ∀ d : Fin 10, d.val ≠ 0 → Nat.digitChar d ≠ '0' := by decide
  have hchar := hlast ⟨t % 10, Nat.mod_lt t (by decide)⟩ h
  obtain ⟨front, hfront⟩ : ∃ front, Nat.toDigits 10 t = front ++ [Nat.digitChar (t % 10)] := by
    rw [Nat.toDigits_eq_if (by decide)]
    split
    · rename_i hlt
      exact ⟨[], by rw [Nat.mod_eq_of_lt hlt]; rfl⟩
    · exact ⟨_, rfl⟩
  rw [List.reverse_append, List.reverse_replicate,
    List.dropWhile_append_of_pos (by simp [List.mem_replicate]), hfront, List.reverse_append,
    List.reverse_singleton, List.singleton_append,
    List.dropWhile_cons_of_neg (by simpa using hchar), List.reverse_cons, List.reverse_reverse]

/-- Numbers whose last digit is not zero are told from each other wherever the point stands. -/
theorem eq_of_mul_ten_pow_eq {t t' : Nat} {e e' : Int} (ht : t % 10 ≠ 0) (ht' : t' % 10 ≠ 0)
    (h : (t : ℚ) * 10 ^ e = t' * 10 ^ e') : t = t' := by
  wlog hle : e ≤ e' generalizing t t' e e'
  · exact (this ht' ht h.symm (by omega)).symm
  obtain ⟨b, rfl⟩ := Int.le.dest hle
  have hten : (10 : ℚ) ^ e ≠ 0 := by positivity
  rw [zpow_add₀ (by norm_num), mul_comm ((10 : ℚ) ^ e), ← mul_assoc, mul_left_inj' hten,
    zpow_natCast] at h
  have heq : t = t' * 10 ^ b := by exact_mod_cast h
  cases b with
  | zero => simpa using heq
  | succ b =>
    rw [pow_succ, ← mul_assoc] at heq
    omega

namespace Numeral

def digits (n : Numeral) : Text :=
  ((Nat.toDigits 10 n.significand).reverse.dropWhile (· = '0')).reverse

def digitCount (n : Numeral) : Nat := n.digits.length

variable {n : Numeral}

theorem digitCount_eq_zero (h : n.significand = 0) : n.digitCount = 0 := by
  unfold digitCount digits
  rw [h]
  decide

theorem exists_digits_eq (h : n.significand ≠ 0) :
    ∃ t a, n.significand = t * 10 ^ a ∧ t % 10 ≠ 0 ∧ n.digits = Nat.toDigits 10 t := by
  obtain ⟨t, a, hn, ht, hdigits⟩ := exists_toDigits_eq_append h
  refine ⟨t, a, hn, ht, ?_⟩
  rw [digits, hdigits, dropZeros_toDigits ht]

/-- Final zeros are not counted as digits. -/
theorem digitCount_le {t a k : Nat} (hn : n.significand = t * 10 ^ a) (ht : t < 10 ^ k) :
    n.digitCount ≤ k := by
  by_cases hzero : n.significand = 0
  · rw [digitCount_eq_zero hzero]
    exact Nat.zero_le k
  · have hne : t ≠ 0 := by
      rintro rfl
      exact hzero (by rw [hn, Nat.zero_mul])
    obtain ⟨s, b, hs, hlast, hdigits⟩ := exists_digits_eq hzero
    obtain ⟨u, c, rfl, hlast', -⟩ := exists_toDigits_eq_append hne
    have hsame : (s : ℚ) * 10 ^ (b : Int) = u * 10 ^ (c + a : Int) := by
      rw [zpow_add₀ (by norm_num), zpow_natCast, zpow_natCast, zpow_natCast, ← mul_assoc]
      exact_mod_cast hs.symm.trans hn
    obtain rfl := eq_of_mul_ten_pow_eq hlast hlast' hsame
    have hle : s ≤ s * 10 ^ c := Nat.le_mul_of_pos_right s (Nat.pow_pos (by decide))
    have hk : k ≠ 0 := by
      rintro rfl
      omega
    rw [digitCount, hdigits, Nat.length_toDigits_le_iff (by decide) (by omega)]
    omega

theorem digitCount_le_of_le {k : Nat} (h : n.significand ≤ 10 ^ (k + 1)) :
    n.digitCount ≤ k + 1 := by
  rcases Nat.lt_or_eq_of_le h with hlt | hten
  · exact digitCount_le (t := n.significand) (a := 0) (by simp) hlt
  · have hone := digitCount_le (t := 1) (k := 1) (by rw [hten, Nat.one_mul]) (by decide)
    omega

theorem abs_toRat (n : Numeral) : |n.toRat| = n.significand * 10 ^ n.exponent := by
  rw [toRat, abs_signed, abs_of_nonneg (by positivity)]

theorem toRat_eq_zero_iff : n.toRat = 0 ↔ n.significand = 0 := by
  have hten : (10 : ℚ) ^ n.exponent ≠ 0 := by positivity
  rw [← abs_eq_zero, abs_toRat, mul_eq_zero, or_iff_left hten, Nat.cast_eq_zero]

/-- Equal numbers have equally many digits, wherever their zeros are written. -/
theorem digitCount_eq_of_toRat_eq {n' : Numeral} (h : n.toRat = n'.toRat) :
    n.digitCount = n'.digitCount := by
  by_cases hne : n.significand = 0
  · have hne' := toRat_eq_zero_iff.1 (h.symm.trans (toRat_eq_zero_iff.2 hne))
    rw [digitCount_eq_zero hne, digitCount_eq_zero hne']
  · have hne' : n'.significand ≠ 0 := by
      rwa [Ne, ← toRat_eq_zero_iff, ← h, toRat_eq_zero_iff]
    obtain ⟨t, a, hn, ht, hdigits⟩ := exists_digits_eq hne
    obtain ⟨t', a', hn', ht', hdigits'⟩ := exists_digits_eq hne'
    have hsame : (t : ℚ) * 10 ^ (a + n.exponent) = t' * 10 ^ (a' + n'.exponent) := by
      have habs := congrArg abs h
      rw [abs_toRat, abs_toRat, hn, hn'] at habs
      rw [zpow_add₀ (by norm_num), zpow_add₀ (by norm_num), zpow_natCast, zpow_natCast,
        ← mul_assoc, ← mul_assoc]
      exact_mod_cast habs
    rw [digitCount, digitCount, hdigits, hdigits', eq_of_mul_ten_pow_eq ht ht' hsame]

/-- No numeral of the same double has fewer digits, and of those with as many none is nearer. -/
def IsShortest (n : Numeral) : Prop :=
  ∀ n' : Numeral, n'.toBinary64 = n.toBinary64 → n.digitCount ≤ n'.digitCount ∧
    (n'.digitCount = n.digitCount →
      |n.toBinary64.toRat - n.toRat| ≤ |n.toBinary64.toRat - n'.toRat|)

theorem toBinary64_eq_zero (h : n.significand = 0) : n.toBinary64 = .zero n.negative := by
  rw [toBinary64, h, Binary64.ofDecimal.eq_def, if_pos rfl]

theorem isShortest_of_significand_eq_zero (h : n.significand = 0) : n.IsShortest := by
  intro n' _
  rw [digitCount_eq_zero h]
  refine ⟨Nat.zero_le _, ?_⟩
  intro _
  rw [toBinary64_eq_zero h, Binary64.toRat_zero, toRat_eq_zero_iff.2 h, sub_zero, abs_zero]
  exact abs_nonneg _

/-- To be shortest is a matter of the number and its double. -/
theorem isShortest_congr {n' : Numeral} (hvalue : n.toRat = n'.toRat)
    (hdouble : n.toBinary64 = n'.toBinary64) (h : n.IsShortest) : n'.IsShortest := by
  have hcount := digitCount_eq_of_toRat_eq hvalue
  unfold IsShortest at *
  rwa [hvalue, hdouble, hcount] at h

end Numeral

namespace Binary64

section
variable {negative : Bool} {units : Nat} {grid : IsGrid units}

/-- Every number that reads back can be replaced by one with as many digits whose first digit stands
where that of the double stands. -/
theorem exists_readsBack_leading (hunits : units ≠ 0) {t k : Nat} {e : Int} (ht : t < 10 ^ (k + 1))
    (h : (⟨negative, t, e⟩ : Numeral).toBinary64 = finite negative units grid) :
    ∃ j : Nat, (⟨negative, j, leadingExponent units - k⟩ : Numeral).toBinary64 =
        finite negative units grid ∧
      |(units : ℚ) / unitsPerOne - j * 10 ^ (leadingExponent units - k)| ≤
        |(units : ℚ) / unitsPerOne - t * 10 ^ e| := by
  have hfirst := (ten_pow_leadingExponent_le hunits).1
  generalize leadingExponent units = leading at *
  by_cases he : leading - k ≤ e
  · obtain ⟨d, rfl⟩ := Int.le.dest he
    have hvalue : ((t * 10 ^ d : Nat) : ℚ) * 10 ^ (leading - k) = t * 10 ^ (leading - k + d) := by
      rw [zpow_add₀ (by norm_num), zpow_natCast]
      push_cast
      ring
    refine ⟨t * 10 ^ d, ?_, by rw [hvalue]⟩
    rw [toBinary64_eq_finite_iff] at *
    rwa [hvalue]
  -- The number lies below the power of ten that the double starts with.
  · have hvalue : ((10 ^ k : Nat) : ℚ) * 10 ^ (leading - k) = 10 ^ leading := by
      rw [Nat.cast_pow, Nat.cast_ofNat, ← zpow_natCast, ← zpow_add₀ (by norm_num)]
      congr 1
      omega
    have hbelow : (t : ℚ) * 10 ^ e ≤ 10 ^ leading := by
      have hplaces : (10 : ℚ) ^ e ≤ 10 ^ (leading - (k + 1 : Nat)) :=
        zpow_le_zpow_right₀ (by norm_num) (by omega)
      have hsignificand : (t : ℚ) ≤ 10 ^ (k + 1) := by exact_mod_cast ht.le
      calc (t : ℚ) * 10 ^ e ≤ 10 ^ (k + 1) * 10 ^ (leading - (k + 1 : Nat)) :=
            mul_le_mul hsignificand hplaces (by positivity) (by positivity)
        _ = 10 ^ leading := by
            rw [← zpow_natCast, ← zpow_add₀ (by norm_num)]
            congr 1
            omega
    refine ⟨10 ^ k, toBinary64_eq_finite_of_between h (Or.inl ?_), ?_⟩
    · rw [hvalue]
      exact ⟨hbelow, hfirst⟩
    · rw [hvalue, abs_of_nonneg (by linarith), abs_of_nonneg (by linarith)]
      linarith

/-- The numeral that is found reads back. -/
theorem toBinary64_shortest (negative : Bool) (grid : IsGrid units) (hunits : units ≠ 0) :
    (shortest negative units grid).toBinary64 = finite negative units grid := by
  obtain ⟨i, s, heq, hfound⟩ := shortest_eq_of_isFound negative grid hunits
  rw [heq]
  exact hfound.readsBack

theorem significand_ne_zero_of_toBinary64_eq {n : Numeral} (hunits : units ≠ 0)
    (h : n.toBinary64 = finite negative units grid) : n.significand ≠ 0 := by
  intro hzero
  have hdouble := (Numeral.toBinary64_eq_zero hzero).symm.trans h
  exact hunits (finite.inj hdouble).2.symm

/-- A numeral that reads back may have its first digit moved to where that of the double stands. -/
theorem exists_readsBack_digitCount {n : Numeral} (hunits : units ≠ 0)
    (h : n.toBinary64 = finite negative units grid) :
    ∃ k j : Nat, n.digitCount = k + 1 ∧
      (⟨negative, j, leadingExponent units - k⟩ : Numeral).toBinary64 =
        finite negative units grid ∧
      |(units : ℚ) / unitsPerOne - j * 10 ^ (leadingExponent units - k)| ≤
        |(units : ℚ) / unitsPerOne - n.significand * 10 ^ n.exponent| := by
  obtain ⟨t, a, hsignificand, ht, hdigits⟩ :=
    Numeral.exists_digits_eq (significand_ne_zero_of_toBinary64_eq hunits h)
  have hlt := lt_ten_pow_length_toDigits t
  have hcount : n.digitCount = (Nat.toDigits 10 t).length := by rw [Numeral.digitCount, hdigits]
  -- There is at least one digit, as the double is not zero.
  obtain ⟨k, hk⟩ := Nat.exists_eq_succ_of_ne_zero (Nat.length_toDigits_pos (b := 10) (n := t)).ne'
  rw [hk] at hlt hcount
  have hvalue : (n.significand : ℚ) * 10 ^ n.exponent = t * 10 ^ (n.exponent + a) := by
    rw [hsignificand, zpow_add₀ (by norm_num), zpow_natCast]
    push_cast
    ring
  have hback : (⟨negative, t, n.exponent + a⟩ : Numeral).toBinary64 =
      finite negative units grid := by
    obtain ⟨hnearest, hsign⟩ := (Numeral.toBinary64_eq_iff rfl).1 h
    rw [toBinary64_eq_finite_iff, ← hvalue]
    rwa [Numeral.toRat, ← hsign] at hnearest
  obtain ⟨j, hj, hnearer⟩ := exists_readsBack_leading hunits hlt hback
  exact ⟨k, j, hcount, hj, hvalue ▸ hnearer⟩

/-- The numeral that is found for a double is the shortest one. -/
theorem isShortest_shortest (negative : Bool) (grid : IsGrid units) (hunits : units ≠ 0) :
    (shortest negative units grid).IsShortest := by
  intro n hn
  rw [toBinary64_shortest negative grid hunits] at *
  obtain ⟨i, s, heq, hfound⟩ := shortest_eq_of_isFound negative grid hunits
  obtain ⟨k, j, hcount, hj, hnearer⟩ := exists_readsBack_digitCount hunits hn
  -- The other numeral has as many places, so the search was over it as well.
  have hi := hfound.least k j hj
  have hle := Numeral.digitCount_le_of_le
    (n := ⟨negative, s, leadingExponent units - i⟩) hfound.le
  have hsign : n.negative = negative := ((Numeral.toBinary64_eq_iff rfl).1 hn).2.symm
  rw [heq, hcount]
  refine ⟨by omega, ?_⟩
  intro hsame
  obtain rfl : i = k := by omega
  unfold Numeral.toRat toRat
  rw [abs_signed_sub, hsign, abs_signed_sub]
  exact (hfound.nearest j hj).trans hnearer

end

end Binary64

end Cascade
