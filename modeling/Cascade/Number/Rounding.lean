/-! The integer nearest to a quotient of natural numbers, a half going to the even one. -/

namespace Cascade

def roundDiv (num den : Nat) : Nat :=
  let q := num / den
  let r := num % den
  -- At a half, adding the parity of the quotient makes it even.
  if 2 * r < den then q else if den < 2 * r then q + 1 else q + q % 2

theorem roundDiv_le (num den : Nat) : roundDiv num den ≤ num / den + 1 := by
  simp only [roundDiv]
  split
  · omega
  · split <;> omega

theorem le_roundDiv (num den : Nat) : num / den ≤ roundDiv num den := by
  simp only [roundDiv]
  split
  · omega
  · split <;> omega

/-- Exact multiples are kept. -/
theorem roundDiv_mul (n : Nat) {den : Nat} (h : 0 < den) : roundDiv (n * den) den = n := by
  simp [roundDiv, Nat.mul_mod_left, Nat.mul_div_cancel _ h, h]

/-- The result is at most half a unit too large. -/
theorem two_mul_roundDiv_le {num den : Nat} (h : 0 < den) :
    2 * (roundDiv num den * den) ≤ 2 * num + den := by
  have hd := Nat.div_add_mod num den
  rw [Nat.mul_comm] at hd
  have hm := Nat.mod_lt num h
  simp only [roundDiv]
  split
  · omega
  · split
    · rw [Nat.add_mul]
      omega
    · have : num / den % 2 < 2 := Nat.mod_lt _ (by decide)
      rcases (by omega : num / den % 2 = 0 ∨ num / den % 2 = 1) with h2 | h2 <;>
        rw [h2, Nat.add_mul] <;> omega

/-- The result is at most half a unit too small. -/
theorem le_two_mul_roundDiv {num den : Nat} (h : 0 < den) :
    2 * num ≤ 2 * (roundDiv num den * den) + den := by
  have hd := Nat.div_add_mod num den
  rw [Nat.mul_comm] at hd
  have hm := Nat.mod_lt num h
  simp only [roundDiv]
  split
  · omega
  · split
    · rw [Nat.add_mul]
      omega
    · have : num / den % 2 < 2 := Nat.mod_lt _ (by decide)
      rcases (by omega : num / den % 2 = 0 ∨ num / den % 2 = 1) with h2 | h2 <;>
        rw [h2, Nat.add_mul] <;> omega

theorem roundDiv_even_of_half {num den : Nat} (h : 2 * (num % den) = den) :
    roundDiv num den % 2 = 0 := by
  simp only [roundDiv, h, Nat.lt_irrefl, if_false]
  omega

end Cascade
