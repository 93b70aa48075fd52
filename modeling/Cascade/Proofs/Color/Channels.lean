import Cascade.Color.Rgba
import Cascade.Proofs.Number.Order

/-!
# Channels and their octets

A channel is made from a number out of 255 by one rounding, and its octet by two more.  From 0 to
255 the three errors stay far below a half, and beyond that the octet is clamped.
-/

namespace Cascade.Rgba
open Text

/-! ## 1. The octet of a channel -/

def outOf255 (units : Nat) : Nat := roundDiv (roundUnits (units * 255) 1) unitsPerOne

/-- The clamp comes last, so a product out of range is refused whatever its sign. -/
theorem octet_finite (negative : Bool) {units : Nat} (grid : IsGrid units) :
    octet (.finite negative units grid) =
      if roundUnits (units * 255) 1 < unitLimit
      then .ok (if negative then 0 else min (outOf255 units) 255) else .error .infinite := by
  have hscaled : (Binary64.finite negative units grid).mulNat 255 =
      .ofUnits negative (units * 255) 1 := rfl
  unfold octet
  rw [hscaled]
  unfold Binary64.ofUnits
  by_cases hlimit : roundUnits (units * 255) 1 < unitLimit
  · rw [dif_pos hlimit, if_pos hlimit]
    simp only [Binary64.roundToInt?]
    cases negative with
    | false => simp only [Bool.false_eq_true, if_false, Int.toNat_natCast, outOf255]
    | true => simp only [if_true, Int.toNat_neg_natCast, Nat.zero_min]
  · rw [dif_neg hlimit, if_neg hlimit]
    rfl

theorem outOf255_mono {units units' : Nat} (h : units ≤ units') :
    outOf255 units ≤ outOf255 units' := by
  apply roundDiv_mono unitsPerOne_pos
  exact roundUnits_mono (by decide) (Nat.mul_le_mul_right 255 h)

theorem roundUnits_full : roundUnits (255 * unitsPerOne) 255 = unitsPerOne := by
  decide +kernel

theorem roundUnits_le_unitsPerOne {n : Nat} (h : n ≤ 255) :
    roundUnits (n * unitsPerOne) 255 ≤ unitsPerOne := by
  have hle := roundUnits_mono (by decide : 0 < 255) (Nat.mul_le_mul_right unitsPerOne h)
  rwa [roundUnits_full] at hle

/-- A product with a quotient misses the dividend by its own error and by that of the quotient. -/
theorem abs_product_sub_le (dividend quotient product : ℚ) :
    |product - dividend| ≤ |quotient * 255 - product| + 255 * |dividend / 255 - quotient| := by
  have hparts : product - dividend =
      -(quotient * 255 - product) - 255 * (dividend / 255 - quotient) := by ring
  have h255 : |(255 : ℚ)| = 255 := rfl
  rw [hparts, ← abs_neg (quotient * 255 - product)]
  refine le_trans (abs_sub _ _) ?_
  rw [abs_mul, h255]

/-- The errors of both roundings add up to far less than a half. -/
theorem outOf255_roundUnits {n : Nat} (h : n ≤ 255) :
    outOf255 (roundUnits (n * unitsPerOne) 255) = n := by
  have hpos := cast_unitsPerOne_pos
  have hle := roundUnits_le_unitsPerOne h
  have hquotient := two_mul_abs_sub_roundUnits_le (by decide : 0 < 255)
    (Nat.div_le_of_le_mul (Nat.mul_le_mul_right unitsPerOne h))
  unfold outOf255
  -- From here on only the bounds on the two roundings count, not how they come about.
  generalize roundUnits (n * unitsPerOne) 255 = units at *
  have hproduct := two_mul_abs_sub_roundUnits_le Nat.one_pos
    (by omega : units * 255 / 1 ≤ unitsPerOne * 256)
  generalize roundUnits (units * 255) 1 = scaled at *
  have herrors := abs_product_sub_le (n * unitsPerOne) units scaled
  have herror : (scaled : ℚ) / unitsPerOne - n = (scaled - n * unitsPerOne) / unitsPerOne := by
    rw [sub_div, mul_div_cancel_right₀ _ hpos.ne']
  -- One is 2^52 of its own places, and 256 has places that are 256 times as large.
  have hone : (unitsPerOne : ℚ) = 2 ^ 52 * place unitsPerOne := by
    exact_mod_cast (by decide +kernel : unitsPerOne = 2 ^ 52 * place unitsPerOne)
  have hlarge : (place (unitsPerOne * 256) : ℚ) = 256 * place unitsPerOne := by
    exact_mod_cast (by decide +kernel : place (unitsPerOne * 256) = 256 * place unitsPerOne)
  apply roundDiv_eq_of_abs_sub_lt unitsPerOne_pos
  rw [herror, abs_div, abs_of_pos hpos, ← mul_div_assoc, div_lt_one hpos]
  push_cast at hquotient hproduct
  rw [div_one, hlarge] at hproduct
  linarith [place_pos unitsPerOne]

/-! ## 2. Channels from integers -/

/-- Holds for the double nearest to a number out of 255, with a sign that zero has as well. -/
structure IsChannel (q : ℚ) (negative : Bool) (x : Binary64) : Prop where
  isNearest : Binary64.IsNearest (q / 255) x
  isNegative : x.isNegative = negative

theorem IsChannel.eq {q : ℚ} {negative : Bool} {x y : Binary64} (hx : IsChannel q negative x)
    (hy : IsChannel q negative y) : x = y :=
  hx.isNearest.eq hy.isNearest (hx.isNegative.trans hy.isNegative.symm)

theorem IsChannel.iff_eq {q : ℚ} {negative : Bool} {x y : Binary64} (hx : IsChannel q negative x) :
    IsChannel q negative y ↔ y = x := by
  constructor
  · exact fun hy => hy.eq hx
  · exact fun h => h ▸ hx

def clamped (n : Int) : Nat := (max 0 (min n 255)).toNat

section
variable {n : Int} {x : Binary64}

theorem channelOfInt_eq_ok_iff :
    channelOfInt n = .ok x ↔
      Binary64.ofUnits (n < 0) (n.natAbs * unitsPerOne) 255 = x ∧ x.isFinite = true := by
  unfold channelOfInt Binary64.ofRatio
  generalize Binary64.ofUnits (n < 0) (n.natAbs * unitsPerOne) 255 = y
  dsimp only
  split
  · rename_i hfinite
    rw [Except.ok.injEq]
    exact ⟨fun h => ⟨h, h ▸ hfinite⟩, And.left⟩
  · rename_i hinfinite
    refine iff_of_false (by simp) ?_
    rintro ⟨rfl, hfinite⟩
    exact hinfinite hfinite

/-- A channel has the sign of its integer and the magnitude of one rounded quotient. -/
theorem exists_eq_of_channelOfInt (h : channelOfInt n = .ok x) :
    ∃ grid, x = .finite (n < 0) (roundUnits (n.natAbs * unitsPerOne) 255) grid := by
  obtain ⟨rfl, hfinite⟩ := channelOfInt_eq_ok_iff.1 h
  exact Binary64.exists_eq_of_isFinite_ofUnits hfinite

/-- The octet of an integer's channel is that integer, clamped. -/
theorem octet_channelOfInt (h : channelOfInt n = .ok x) {m : Nat} (hm : octet x = .ok m) :
    m = clamped n := by
  -- The three cases of the clamp: below zero, among the octets, and above them.
  obtain ⟨grid, rfl⟩ := exists_eq_of_channelOfInt h
  rw [octet_finite] at hm
  split at hm
  · have hm := Except.ok.inj hm
    rw [← hm]
    unfold clamped
    by_cases hneg : n < 0
    · rw [if_pos (decide_eq_true hneg)]
      omega
    · rw [if_neg (by simpa using hneg)]
      by_cases hle : n ≤ 255
      · rw [outOf255_roundUnits (by omega)]
        omega
      -- Rounding keeps the order, so what is above 255 stays above it.
      · have hle := outOf255_mono (roundUnits_mono (by decide : 0 < 255)
          (Nat.mul_le_mul_right unitsPerOne (by omega : 255 ≤ n.natAbs)))
        rw [outOf255_roundUnits (le_refl 255)] at hle
        omega
  · cases hm

/-- No other integer is rounded to a full channel: the quotients next to one are doubles apart. -/
theorem channelOfInt_eq_one_iff (h : channelOfInt n = .ok x) : x = .one ↔ n = 255 := by
  obtain ⟨grid, rfl⟩ := exists_eq_of_channelOfInt h
  have hbelow : roundUnits (254 * unitsPerOne) 255 < unitsPerOne := by decide +kernel
  have habove : unitsPerOne < roundUnits (256 * unitsPerOne) 255 := by decide +kernel
  rw [Binary64.one_eq, Binary64.finite.injEq, Nat.one_mul, decide_eq_false_iff_not]
  constructor
  · rintro ⟨hsign, hunits⟩
    by_contra hne
    have hnat : n.natAbs ≤ 254 ∨ 256 ≤ n.natAbs := by omega
    rcases hnat with hnat | hnat
    · have := roundUnits_mono (by decide : 0 < 255) (Nat.mul_le_mul_right unitsPerOne hnat)
      omega
    · have := roundUnits_mono (by decide : 0 < 255) (Nat.mul_le_mul_right unitsPerOne hnat)
      omega
  · intro hn
    have hnat : n.natAbs = 255 := by omega
    rw [hnat]
    exact ⟨by omega, roundUnits_full⟩

theorem signed_natAbs_div (n : Int) :
    signed (n < 0) (((n.natAbs * unitsPerOne : Nat) : ℚ) / (255 : Nat) / unitsPerOne) =
      n / 255 := by
  have hpos := cast_unitsPerOne_pos.ne'
  have hvalue : ((n.natAbs * unitsPerOne : Nat) : ℚ) / (255 : Nat) / unitsPerOne =
      n.natAbs / 255 := by
    push_cast
    field_simp
  rw [hvalue, Nat.cast_natAbs]
  unfold signed
  by_cases hneg : n < 0
  · rw [if_pos (decide_eq_true hneg), abs_of_neg hneg]
    push_cast
    ring
  · rw [if_neg (by simpa using hneg), abs_of_nonneg (not_lt.1 hneg)]

/-- The quotient is out of range only if it is rounded to 2^1024 or above. -/
theorem exists_channelOfInt_iff (n : Int) :
    (∃ x, channelOfInt n = .ok x) ↔ |(n : ℚ) / 255| < Binary64.overflow := by
  rw [← signed_natAbs_div, ← Binary64.isFinite_ofUnits_iff (by decide)]
  simp only [channelOfInt_eq_ok_iff, exists_eq_left']

/-- The channel of an integer is the double nearest to its quotient by 255, with its sign. -/
theorem channelOfInt_eq_ok_iff_isChannel : channelOfInt n = .ok x ↔ IsChannel n (n < 0) x := by
  have hchannel {y : Binary64} (hy : channelOfInt n = .ok y) : IsChannel n (n < 0) y := by
    have hlt := (exists_channelOfInt_iff n).1 ⟨y, hy⟩
    obtain ⟨rfl, -⟩ := channelOfInt_eq_ok_iff.1 hy
    rw [← signed_natAbs_div] at hlt
    have hnearest := Binary64.isNearest_ofUnits (by decide) (n < 0) hlt
    rw [signed_natAbs_div] at hnearest
    exact ⟨hnearest, Binary64.isNegative_ofUnits _⟩
  constructor
  · exact hchannel
  · intro hx
    obtain ⟨y, hy⟩ := (exists_channelOfInt_iff n).2 hx.isNearest.abs_lt
    rw [hy, (hchannel hy).eq hx]

end

/-! ## 3. Channels from octets -/

section
variable {n : Nat}

theorem channelOfInt_natCast (h : n ≤ 255) : channelOfInt n = .ok (channelOfOctet n) := by
  rw [channelOfInt_eq_ok_iff]
  have hneg : decide ((n : Int) < 0) = false := decide_eq_false (by omega)
  have hunits := roundUnits_le_unitsPerOne h
  have hlimit := (Binary64.isGrid_mul_unitsPerOne (by decide : 1 ≤ Nat.pow 2 53)).1
  rw [Nat.one_mul] at hlimit
  refine ⟨by rw [hneg]; rfl, ?_⟩
  unfold channelOfOctet Binary64.ofRatio Binary64.ofUnits
  rw [dif_pos (Nat.lt_of_le_of_lt hunits hlimit)]
  rfl

theorem isFinite_channelOfOctet (h : n ≤ 255) : (channelOfOctet n).isFinite = true :=
  (channelOfInt_eq_ok_iff.1 (channelOfInt_natCast h)).2

/-- An octet survives the way to a channel and back. -/
theorem octet_channelOfOctet (h : n ≤ 255) : octet (channelOfOctet n) = .ok n := by
  obtain ⟨grid, hchannel⟩ := exists_eq_of_channelOfInt (channelOfInt_natCast h)
  have hunits := roundUnits_le_unitsPerOne h
  have hgrid := Binary64.isGrid_mul_unitsPerOne (by decide : 255 ≤ Nat.pow 2 53)
  have hlimit : roundUnits (unitsPerOne * 255) 1 < unitLimit := by
    rw [Nat.mul_comm, roundUnits_of_dvd hgrid.2]
    exact hgrid.1
  have hscaled := roundUnits_mono Nat.one_pos (Nat.mul_le_mul_right 255 hunits)
  rw [hchannel, octet_finite, Int.natAbs_natCast, if_pos (Nat.lt_of_le_of_lt hscaled hlimit),
    if_neg (by simp), outOf255_roundUnits h, Nat.min_eq_left h]

theorem channelOfOctet_eq_one_iff (h : n ≤ 255) : channelOfOctet n = .one ↔ n = 255 := by
  rw [channelOfInt_eq_one_iff (channelOfInt_natCast h)]
  omega

theorem isChannel_channelOfOctet (h : n ≤ 255) : IsChannel n false (channelOfOctet n) := by
  have hchannel := channelOfInt_eq_ok_iff_isChannel.1 (channelOfInt_natCast h)
  rwa [decide_eq_false (by omega), Int.cast_natCast] at hchannel

end

/-! ## 4. Channels from components -/

theorem isChannel_divNat {x : Binary64} (h : x.isFinite = true) :
    IsChannel x.toRat x.isNegative (x.divNat 255) := by
  obtain ⟨hnearest, hsign⟩ := Binary64.isNearest_divNat h (by decide : 3 ≤ 255)
  exact ⟨hnearest, hsign⟩

/-- Only from the greatest double does the product with 255 leave the range again. -/
theorem roundUnits_mul_lt_unitLimit_iff {units : Nat} (grid : IsGrid units) :
    roundUnits (roundUnits units 255 * 255) 1 < unitLimit ↔ units ≠ Binary64.greatestUnits := by
  constructor
  · intro hlt hgreatest
    rw [hgreatest] at hlt
    exact absurd hlt (by decide +kernel)
  · intro hne
    -- Every smaller double is below the greatest one by at least its last place.
    have hbelow : units + 2 ^ 2045 ≤ Binary64.greatestUnits :=
      le_of_place_dvd_of_lt (by decide) grid.2
        (Nat.lt_of_le_of_ne (Binary64.le_greatestUnits grid) hne)
    have hlimit : roundUnits (roundUnits (Binary64.greatestUnits - 2 ^ 2045) 255 * 255) 1 <
        unitLimit := by decide +kernel
    have hquotient := roundUnits_mono (by decide : 0 < 255)
      (Nat.le_sub_of_add_le hbelow)
    exact Nat.lt_of_le_of_lt
      (roundUnits_mono Nat.one_pos (Nat.mul_le_mul_right 255 hquotient)) hlimit

/-- A component has an octet unless it is the greatest double of either sign. -/
theorem octet_divNat {x : Binary64} (h : x.isFinite = true) :
    x.IsGreatest ∧ octet (x.divNat 255) = .error .infinite ∨
      ¬ x.IsGreatest ∧ ∃ n, octet (x.divNat 255) = .ok n := by
  obtain ⟨negative, units, grid, rfl⟩ := Binary64.exists_finite_of_isFinite h
  obtain ⟨grid', hquotient⟩ :=
    Binary64.exists_eq_of_isFinite_ofUnits (Binary64.isFinite_divNat h (by decide : 3 ≤ 255))
  have hoctet : octet ((Binary64.finite negative units grid).divNat 255) = _ :=
    (congrArg octet hquotient).trans (octet_finite negative grid')
  rw [hoctet, Binary64.isGreatest_finite_iff]
  by_cases hgreatest : units = Binary64.greatestUnits
  · left
    rw [if_neg (mt (roundUnits_mul_lt_unitLimit_iff grid).1 (not_not.2 hgreatest))]
    exact ⟨hgreatest, rfl⟩
  · right
    rw [if_pos ((roundUnits_mul_lt_unitLimit_iff grid).2 hgreatest)]
    exact ⟨hgreatest, _, rfl⟩

end Cascade.Rgba
