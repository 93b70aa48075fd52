import Cascade.Number.Rounding

/-!
# Binary64 numbers

A finite magnitude is counted in units of 2^-1074, the smallest positive double.  Every finite
number has one form, and rounding is exact arithmetic on natural numbers: nearest, a half to the
even significand, and infinity from 2^1024 on.
-/

namespace Cascade

/-! ## 1. The numbers -/

def unitLimit : Nat := Nat.pow 2 2098

def unitsPerOne : Nat := Nat.pow 2 1074

/-- Holds for the counts of units that are doubles: their last binary digits beyond the 53rd are
zero. -/
def IsGrid (units : Nat) : Prop := units < unitLimit ∧ Nat.pow 2 (units.log2 - 52) ∣ units

instance (units : Nat) : Decidable (IsGrid units) := inferInstanceAs (Decidable (_ ∧ _))

inductive Binary64 where
  | finite (negative : Bool) (units : Nat) (grid : IsGrid units)
  | infinite (negative : Bool)
  | nan
deriving DecidableEq

theorem unitsPerOne_pos : 0 < unitsPerOne := by
  unfold unitsPerOne
  generalize 1074 = n
  exact Nat.two_pow_pos n

theorem unitLimit_pos : 0 < unitLimit := by
  unfold unitLimit
  generalize 2098 = n
  exact Nat.two_pow_pos n

theorem isGrid_zero : IsGrid 0 := ⟨unitLimit_pos, Nat.dvd_zero _⟩

/-! ## 2. Rounding a quotient of units -/

def excessBits (num den : Nat) : Nat := (num / den).log2 - 52

/-- The place value of the last digit that a quotient keeps. -/
def lastPlace (num den : Nat) : Nat := Nat.pow 2 (excessBits num den)

/-- The count of units nearest to `num / den` on the grid of doubles, unbounded above. -/
def roundUnits (num den : Nat) : Nat :=
  roundDiv num (den * lastPlace num den) * lastPlace num den

/-- At most 53 binary digits, moved up by any number of places, are on the grid. -/
theorem dvd_mul_two_pow {m k : Nat} (h : m ≤ Nat.pow 2 53) :
    Nat.pow 2 ((m * Nat.pow 2 k).log2 - 52) ∣ m * Nat.pow 2 k := by
  simp only [Nat.pow_eq] at *
  rcases Nat.lt_or_eq_of_le h with h | rfl
  · rcases Nat.eq_zero_or_pos (m * 2 ^ k) with h0 | h0
    · rw [h0]
      exact Nat.dvd_zero _
    -- Fewer than 53 + k digits in all, so those beyond the 53rd are among the k zeros.
    · have hlt : m * 2 ^ k < 2 ^ (53 + k) := by
        rw [Nat.pow_add]
        exact Nat.mul_lt_mul_of_pos_right h (Nat.two_pow_pos k)
      have hlog := (Nat.log2_lt (Nat.ne_of_gt h0)).2 hlt
      exact Nat.dvd_mul_left_of_dvd (Nat.pow_dvd_pow 2 (by omega)) m
  -- The bound itself has one digit more, but all of them after the first are zero.
  · rw [← Nat.pow_add, Nat.log2_two_pow]
    exact Nat.pow_dvd_pow 2 (by omega)

/-- Rounding may add a digit to a significand of 53, but only by making it a power of two. -/
theorem roundDiv_lastPlace_le (num den : Nat) :
    roundDiv num (den * lastPlace num den) ≤ Nat.pow 2 53 := by
  refine Nat.le_trans (roundDiv_le _ _) ?_
  -- The quotient before rounding has at most 53 digits, so rounding up reaches 2^53 at most.
  rw [← Nat.div_div_eq_div_mul]
  refine Nat.div_lt_of_lt_mul ?_
  simp only [lastPlace, Nat.pow_eq]
  rw [← Nat.pow_add]
  refine Nat.lt_of_lt_of_le (Nat.lt_log2_self (n := num / den)) ?_
  exact Nat.pow_le_pow_right (by decide) (by simp only [excessBits]; omega)

/-- What rounding gives is on the grid, but for its size. -/
theorem dvd_roundUnits (num den : Nat) :
    Nat.pow 2 ((roundUnits num den).log2 - 52) ∣ roundUnits num den :=
  dvd_mul_two_pow (roundDiv_lastPlace_le num den)

/-- What is on the grid is left as it is. -/
theorem roundUnits_of_dvd {units : Nat} (h : Nat.pow 2 (units.log2 - 52) ∣ units) :
    roundUnits units 1 = units := by
  obtain ⟨m, hm⟩ := h
  have hk : lastPlace units 1 = Nat.pow 2 (units.log2 - 52) := by
    simp only [lastPlace, excessBits, Nat.div_one]
  rw [roundUnits, hk, Nat.one_mul]
  generalize hp : Nat.pow 2 (units.log2 - 52) = p at hm
  have hpos : 0 < p := hp ▸ Nat.two_pow_pos _
  rw [hm, Nat.mul_comm p m, roundDiv_mul m hpos]

namespace Binary64

/-! ## 3. Making numbers -/

def zero (negative : Bool) : Binary64 := .finite negative 0 isGrid_zero

def ofUnits (negative : Bool) (num den : Nat) : Binary64 :=
  if h : roundUnits num den < unitLimit then
    .finite negative (roundUnits num den) ⟨h, dvd_roundUnits num den⟩
  else .infinite negative

def ofRatio (negative : Bool) (num den : Nat) : Binary64 :=
  ofUnits negative (num * unitsPerOne) den

def ofDecimal (negative : Bool) (significand : Nat) (exponent : Int) : Binary64 :=
  -- Powers of ten that lie beyond the range for every significand of that many digits are not
  -- computed.
  if significand = 0 then zero negative
  else
    match exponent with
    | .ofNat e =>
      if 1024 ≤ significand.log2 + 3 * e then .infinite negative
      else ofRatio negative (significand * Nat.pow 10 e) 1
    | .negSucc e =>
      if significand.log2 + 1077 ≤ 3 * (e + 1) then zero negative
      else ofRatio negative significand (Nat.pow 10 (e + 1))

def ofNat (n : Nat) : Binary64 := ofRatio false n 1

def one : Binary64 := ofNat 1

/-- Up to 2^53 a natural number is a double. -/
theorem isGrid_mul_unitsPerOne {n : Nat} (h : n ≤ Nat.pow 2 53) : IsGrid (n * unitsPerOne) := by
  constructor
  · have hlimit : Nat.pow 2 53 * unitsPerOne < unitLimit := by decide +kernel
    exact Nat.lt_of_le_of_lt (Nat.mul_le_mul_right unitsPerOne h) hlimit
  · unfold unitsPerOne
    generalize 1074 = k
    exact dvd_mul_two_pow h

theorem ofNat_eq {n : Nat} (h : n ≤ Nat.pow 2 53) :
    ofNat n = .finite false (n * unitsPerOne) (isGrid_mul_unitsPerOne h) := by
  have hgrid := isGrid_mul_unitsPerOne h
  have hround : roundUnits (n * unitsPerOne) 1 = n * unitsPerOne := roundUnits_of_dvd hgrid.2
  unfold ofNat ofRatio ofUnits
  simp only [hround, hgrid.1, dite_true]

/-! ## 4. Arithmetic -/

def divNat : Binary64 → Nat → Binary64
  | .finite negative units _, n => ofUnits negative units n
  | x, _ => x

def mulNat : Binary64 → Nat → Binary64
  | .finite negative units _, n => ofUnits negative (units * n) 1
  | x, _ => x

def roundToInt? : Binary64 → Option Int
  | .finite negative units _ =>
    -- A half goes to the even neighbour on either side of zero.
    let n : Int := roundDiv units unitsPerOne
    some (if negative then -n else n)
  | _ => none

def isFinite : Binary64 → Bool
  | .finite .. => true
  | _ => false

/-- Equality of values: the two zeros are the same, and NaN is nothing's equal. -/
def same : Binary64 → Binary64 → Bool
  | .finite n u _, .finite n' u' _ => u == u' && (n == n' || u == 0)
  | .infinite n, .infinite n' => n == n'
  | _, _ => false

theorem same_self {x : Binary64} (h : x ≠ .nan) : x.same x = true := by
  cases x <;> simp_all [same]

theorem same_comm (x y : Binary64) : x.same y = y.same x := by
  cases x with
  | nan => cases y <;> rfl
  | infinite n =>
    cases y with
    | infinite n' => cases n <;> cases n' <;> rfl
    | _ => rfl
  | finite n u _ =>
    cases y with
    | finite n' u' _ =>
      by_cases h : u = u'
      · subst h
        cases n <;> cases n' <;> simp [same]
      · simp [same, beq_false_of_ne h, beq_false_of_ne (Ne.symm h)]
    | _ => rfl

end Binary64
end Cascade
