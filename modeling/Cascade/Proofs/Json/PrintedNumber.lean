import Cascade.Proofs.Json.NumberText
import Cascade.Proofs.Number.Reading
import Mathlib.Algebra.Order.Field.Power

/-!
# Printed numbers read back

The text of a finite double is a spelling of its shortest numeral, and it looks like a double.
-/

namespace Cascade

/-! ## 1. Digits of natural numbers -/

namespace Digit

def ascii (v : Fin 10) : Digit := ⟨0x30, v, by decide, v.isLt⟩

theorem char_ascii : ∀ v : Fin 10, (ascii v).char = Nat.digitChar v := by decide

theorem number_singleton (d : Digit) : number [d] = d.value := by simp [number]

/-- The digits of a natural number are digits in the sense of the reader, and are read as it. -/
theorem exists_text_eq_toDigits (n : Nat) :
    ∃ digits, digits ≠ [] ∧ text digits = Nat.toDigits 10 n ∧ number digits = n := by
  induction n using Nat.strongRecOn with
  | _ n ih =>
    rw [Nat.toDigits_eq_if (by decide)]
    by_cases hlt : n < 10
    · refine ⟨[ascii ⟨n, hlt⟩], List.cons_ne_nil _ _, ?_, number_singleton _⟩
      rw [if_pos hlt, ← char_ascii ⟨n, hlt⟩]
      rfl
    · have hlast := char_ascii ⟨n % 10, Nat.mod_lt n (by decide)⟩
      obtain ⟨digits, -, htext, hnumber⟩ := ih (n / 10) (by omega)
      refine ⟨digits ++ [ascii ⟨n % 10, Nat.mod_lt n (by decide)⟩], by simp, ?_, ?_⟩
      · rw [if_neg hlt, text_append, htext, ← hlast]
        rfl
      · rw [number_append, hnumber, number_singleton, List.length_singleton, pow_one]
        exact Nat.div_add_mod' n 10

def zeros (k : Nat) : List Digit := List.replicate k (ascii 0)

theorem length_zeros (k : Nat) : (zeros k).length = k := List.length_replicate

theorem text_zeros (k : Nat) : text (zeros k) = List.replicate k '0' := List.map_replicate

theorem number_zeros (k : Nat) : number (zeros k) = 0 := by
  induction k with
  | zero => rfl
  | succ k ih =>
    have hsplit : zeros (k + 1) = zeros k ++ [ascii 0] := List.replicate_succ'
    rw [hsplit, number_append, ih, Nat.zero_mul]
    rfl

theorem number_zeros_append (k : Nat) (digits : List Digit) :
    number (zeros k ++ digits) = number digits := by
  rw [number_append, number_zeros, Nat.zero_mul, Nat.zero_add]

theorem number_append_zeros (digits : List Digit) (k : Nat) :
    number (digits ++ zeros k) = number digits * 10 ^ k := by
  rw [number_append, number_zeros, length_zeros, Nat.add_zero]

end Digit

/-- Moving the point to the end divides by a power of ten. -/
theorem Magnitude.value_eq (m : Magnitude) :
    m.value = Digit.number (m.inFront ++ m.behind) * 10 ^ (-(m.behind.length : Int)) := by
  unfold value
  rw [Digit.number_append, zpow_neg, zpow_natCast]
  push_cast
  field_simp

def Sign.ofNegative (negative : Bool) : Sign := if negative then .minus else .absent

theorem Sign.isNegative_ofNegative : ∀ negative, (ofNegative negative).isNegative = negative := by
  decide

theorem Sign.ofNegative_ne_plus : ∀ negative, ofNegative negative ≠ .plus := by decide

/-! ## 2. The two layouts -/

namespace NumberLayout

section
variable {digits : List Digit}

structure IsPositional (digits : List Digit) (point : Int) (m : Magnitude) : Prop where
  text : m.text = positionalText (Digit.text digits) point
  value : m.value = Digit.number digits * 10 ^ (point - digits.length)
  inFront : m.inFront ≠ []
  behind : m.behind ≠ []

/-- A point in front of the digits is filled up to from the left. -/
theorem exists_isPositional_of_le_zero (h : digits ≠ []) {point : Int} (hpoint : point ≤ 0) :
    ∃ m, IsPositional digits point m := by
  obtain ⟨k, hk⟩ := Int.eq_ofNat_of_zero_le (by omega : 0 ≤ -point)
  refine ⟨.whole (Digit.zeros 1) (List.cons_ne_nil _ _) (some (Digit.zeros k ++ digits)), ?_, ?_,
    List.cons_ne_nil _ _, List.append_ne_nil_of_right_ne_nil _ h⟩
  · unfold positionalText
    rw [if_pos hpoint, hk]
    show Digit.text (Digit.zeros 1) ++ '.' :: Digit.text (Digit.zeros k ++ digits) = _
    rw [Digit.text_append, Digit.text_zeros, Digit.text_zeros]
    rfl
  · rw [Magnitude.value_eq]
    show (Digit.number (Digit.zeros 1 ++ (Digit.zeros k ++ digits)) : ℚ) *
      10 ^ (-((Digit.zeros k ++ digits).length : Int)) = _
    rw [Digit.number_zeros_append, Digit.number_zeros_append, List.length_append,
      Digit.length_zeros]
    congr 2
    omega

/-- A point among the digits cuts them in two. -/
theorem exists_isPositional_of_lt {k : Nat} (hpos : 0 < k) (hlt : k < digits.length) :
    ∃ m, IsPositional digits k m := by
  have hwhole : digits.take k ≠ [] := by
    rw [Ne, List.take_eq_nil_iff]
    rintro (hzero | rfl)
    · omega
    · exact absurd hlt (Nat.not_lt_zero k)
  have hfraction : digits.drop k ≠ [] := by simpa using hlt
  refine ⟨.whole (digits.take k) hwhole (some (digits.drop k)), ?_, ?_, hwhole, hfraction⟩
  · unfold positionalText
    rw [if_neg (by omega), Int.toNat_natCast]
    show Digit.text (digits.take k) ++ '.' :: Digit.text (digits.drop k) = _
    simp [Digit.text, hlt.le, hlt]
  · rw [Magnitude.value_eq]
    show (Digit.number (digits.take k ++ digits.drop k) : ℚ) *
      10 ^ (-((digits.drop k).length : Int)) = _
    rw [List.take_append_drop, List.length_drop]
    congr 2
    omega

/-- A point behind the digits is filled up to from the right, and a zero follows it. -/
theorem exists_isPositional_of_le (h : digits ≠ []) {k : Nat} (hle : digits.length ≤ k) :
    ∃ m, IsPositional digits k m := by
  have hpos : 0 < digits.length := List.length_pos_of_ne_nil h
  have hwhole : digits ++ Digit.zeros (k - digits.length) ≠ [] :=
    List.append_ne_nil_of_left_ne_nil h _
  refine ⟨.whole _ hwhole (some (Digit.zeros 1)), ?_, ?_, hwhole, List.cons_ne_nil _ _⟩
  · unfold positionalText
    rw [if_neg (by omega), Int.toNat_natCast]
    show Digit.text (digits ++ Digit.zeros (k - digits.length)) ++
      '.' :: Digit.text (Digit.zeros 1) = _
    rw [Digit.text_append, Digit.text_zeros, Digit.text_zeros]
    simp [Digit.text, hle]
  · rw [Magnitude.value_eq]
    show (Digit.number (digits ++ Digit.zeros (k - digits.length) ++ Digit.zeros 1) : ℚ) *
      10 ^ (-((Digit.zeros 1).length : Int)) = _
    rw [Digit.number_append_zeros, Digit.number_append_zeros, Digit.length_zeros]
    have hplaces : (k : Int) - digits.length = (k - digits.length : Nat) := by omega
    rw [hplaces, zpow_natCast, zpow_neg, zpow_natCast]
    push_cast
    field_simp

/-- Moving the point only fills up with zeros. -/
theorem exists_isPositional (h : digits ≠ []) (point : Int) : ∃ m, IsPositional digits point m := by
  by_cases hpoint : point ≤ 0
  · exact exists_isPositional_of_le_zero h hpoint
  · obtain ⟨k, rfl⟩ := Int.eq_ofNat_of_zero_le (by omega : 0 ≤ point)
    rcases Nat.lt_or_ge k digits.length with hlt | hle
    · exact exists_isPositional_of_lt (by omega) hlt
    · exact exists_isPositional_of_le h hle

/-- An exponent is shown with a sign and with zeros up to its width. -/
theorem exists_scale_exponentText (layout : NumberLayout) (e : Int) :
    ∃ x : Scale, Scale.text (some x) = layout.exponentText e ∧ Scale.exponent (some x) = e ∧
      x.mark = 'e' ∧ x.sign ≠ .absent ∧ layout.exponentWidth ≤ x.digits.length := by
  obtain ⟨digits, hne, htext, hnumber⟩ := Digit.exists_text_eq_toDigits e.natAbs
  have hlength : (Nat.toDigits 10 e.natAbs).length = digits.length := by
    rw [← htext, Digit.text, List.length_map]
  refine ⟨⟨'e', if e < 0 then .minus else .plus,
    Digit.zeros (layout.exponentWidth - digits.length) ++ digits, Or.inl rfl, by simp [hne]⟩,
    ?_, ?_, rfl, ?_, ?_⟩
  · unfold exponentText Scale.text
    dsimp only
    rw [Digit.text_append, Digit.text_zeros, htext, hlength]
    split <;> rfl
  · unfold Scale.exponent
    dsimp only
    rw [Digit.number_zeros_append, hnumber]
    by_cases he : e < 0
    · simp only [he, if_true, Sign.isNegative]
      omega
    · simp only [he, if_false, Sign.isNegative, Bool.false_eq_true]
      omega
  · dsimp only
    split <;> decide
  · dsimp only
    rw [List.length_append, Digit.length_zeros]
    omega

/-- Behind the first digit the point may be missing, but then there is an exponent. -/
theorem exists_magnitude_scientificText (layout : NumberLayout) (h : digits ≠ []) (e : Int) :
    ∃ (m : Magnitude) (x : Scale),
      m.text ++ Scale.text (some x) = layout.scientificText (Digit.text digits) e ∧
      m.value * 10 ^ Scale.exponent (some x) =
        Digit.number digits * 10 ^ (e + 1 - digits.length) ∧
      m.inFront ≠ [] ∧ x.mark = 'e' ∧ x.sign ≠ .absent ∧
      layout.exponentWidth ≤ x.digits.length := by
  obtain ⟨x, htext, hexponent, hshape⟩ := exists_scale_exponentText layout e
  have hten : (10 : ℚ) ≠ 0 := by norm_num
  cases digits with
  | nil => exact absurd rfl h
  | cons first rest =>
    -- One digit stands in front of the point, so it has moved by all the others.
    have hvalue : ((Digit.number (first :: rest) : ℚ) * 10 ^ (-(rest.length : Int))) *
        10 ^ e = Digit.number (first :: rest) * 10 ^ (e + 1 - (first :: rest).length) := by
      rw [mul_assoc, ← zpow_add₀ hten, List.length_cons]
      congr 2
      omega
    cases rest with
    | nil =>
      refine ⟨.whole [first] h none, x, ?_, ?_, List.cons_ne_nil _ _, hshape⟩
      · rw [htext]
        rfl
      · rw [Magnitude.value_eq, hexponent, ← hvalue]
        rfl
    | cons second rest =>
      refine ⟨.whole [first] (List.cons_ne_nil _ _) (some (second :: rest)), x, ?_, ?_,
        List.cons_ne_nil _ _, hshape⟩
      · rw [htext]
        show Digit.text [first] ++ '.' :: Digit.text (second :: rest) ++ layout.exponentText e = _
        rfl
      · rw [Magnitude.value_eq, hexponent, ← hvalue]
        rfl

def magnitudeText (layout : NumberLayout) (digits : Text) (e : Int) : Text :=
  if layout.leastPositional ≤ e ∧ e < layout.positionalBound then positionalText digits (e + 1)
  else layout.scientificText digits e

/-- Either layout spells the digits times the power of ten that puts the first of them in its place.
-/
theorem exists_magnitude_magnitudeText (layout : NumberLayout) (h : digits ≠ []) (e : Int) :
    ∃ (m : Magnitude) (x : Option Scale),
      m.text ++ Scale.text x = layout.magnitudeText (Digit.text digits) e ∧
      m.value * 10 ^ Scale.exponent x = Digit.number digits * 10 ^ (e + 1 - digits.length) ∧
      m.inFront ≠ [] ∧ (x = none → m.behind ≠ []) ∧
      (∀ y, x = some y →
        y.mark = 'e' ∧ y.sign ≠ .absent ∧ layout.exponentWidth ≤ y.digits.length) ∧
      (x = none ↔ layout.leastPositional ≤ e ∧ e < layout.positionalBound) := by
  unfold magnitudeText
  -- The layouts differ in whether there is an exponent, and both have the value.
  by_cases hplain : layout.leastPositional ≤ e ∧ e < layout.positionalBound
  · obtain ⟨m, hm⟩ := exists_isPositional h (e + 1)
    refine ⟨m, none, ?_, ?_, hm.inFront, fun _ => hm.behind, by simp, iff_of_true rfl hplain⟩
    · rw [if_pos hplain, ← hm.text]
      exact List.append_nil _
    · rw [← hm.value]
      show m.value * 10 ^ (0 : Int) = _
      rw [zpow_zero, mul_one]
  · obtain ⟨m, x, htext, hvalue, hfront, hshape⟩ := exists_magnitude_scientificText layout h e
    refine ⟨m, some x, ?_, hvalue, hfront, by simp, ?_, iff_of_false (by simp) hplain⟩
    · rw [if_neg hplain, htext]
    · rintro y ⟨⟩
      exact hshape

end

end NumberLayout

/-! ## 3. The text of a number -/

/-- A spelling that shows its number to be a double: by a point between digits where it has no
exponent, and otherwise by an exponent with a sign and enough digits. -/
structure Spelling.IsPrinted (layout : NumberLayout) (s : Spelling) : Prop where
  sign : s.sign ≠ .plus
  inFront : s.magnitude.inFront ≠ []
  behind : s.scale = none → s.magnitude.behind ≠ []
  scale : ∀ x, s.scale = some x →
    x.mark = 'e' ∧ x.sign ≠ .absent ∧ layout.exponentWidth ≤ x.digits.length
  plain : s.scale = none ↔ s.value = 0 ∨
    10 ^ layout.leastPositional ≤ |s.value| ∧ |s.value| < 10 ^ layout.positionalBound

namespace NumberLayout

/-- With the first of its digits at an exponent, a number lies between two powers of ten. -/
theorem ten_pow_le_mul_ten_pow {t : Nat} (h : t ≠ 0) (e : Int) :
    (10 : ℚ) ^ e ≤ t * 10 ^ (e + 1 - (Nat.toDigits 10 t).length) ∧
      (t : ℚ) * 10 ^ (e + 1 - (Nat.toDigits 10 t).length) < 10 ^ (e + 1) := by
  have hten : (10 : ℚ) ≠ 0 := by norm_num
  have hfirst := ten_pow_le_of_ne_zero h
  have hlast := lt_ten_pow_length_toDigits t
  have hpos : 0 < (Nat.toDigits 10 t).length := Nat.length_toDigits_pos
  generalize (Nat.toDigits 10 t).length = d at *
  have hplaces : (0 : ℚ) < 10 ^ (e + 1 - d) := by positivity
  constructor
  · calc (10 : ℚ) ^ e = ((10 ^ (d - 1) : Nat) : ℚ) * 10 ^ (e + 1 - d) := by
          rw [Nat.cast_pow, Nat.cast_ofNat, ← zpow_natCast, ← zpow_add₀ hten]
          congr 1
          omega
      _ ≤ t * 10 ^ (e + 1 - d) := mul_le_mul_of_nonneg_right (by exact_mod_cast hfirst) hplaces.le
  · calc (t : ℚ) * 10 ^ (e + 1 - d) < ((10 ^ d : Nat) : ℚ) * 10 ^ (e + 1 - d) :=
          mul_lt_mul_of_pos_right (by exact_mod_cast hlast) hplaces
      _ = 10 ^ (e + 1) := by
          rw [Nat.cast_pow, Nat.cast_ofNat, ← zpow_natCast, ← zpow_add₀ hten]
          congr 1
          omega

/-- Between powers of ten a number lies where the exponent of its first digit does. -/
theorem between_iff {v : ℚ} {e : Int} (least bound : Int) (hle : 10 ^ e ≤ v)
    (hlt : v < 10 ^ (e + 1)) :
    (v = 0 ∨ 10 ^ least ≤ v ∧ v < 10 ^ bound) ↔ least ≤ e ∧ e < bound := by
  have hten : (1 : ℚ) < 10 := by norm_num
  have hpos : (0 : ℚ) < 10 ^ e := by positivity
  constructor
  · rintro (rfl | ⟨hleast, hbound⟩)
    · exact absurd hpos (not_lt.2 hle)
    · have hlow := (zpow_lt_zpow_iff_right₀ hten).1 (hleast.trans_lt hlt)
      have hhigh := (zpow_lt_zpow_iff_right₀ hten).1 (hle.trans_lt hbound)
      omega
  · rintro ⟨hleast, hbound⟩
    right
    exact ⟨((zpow_le_zpow_iff_right₀ hten).2 hleast).trans hle,
      hlt.trans_le ((zpow_le_zpow_iff_right₀ hten).2 hbound)⟩

section
variable {layout : NumberLayout} {n : Numeral} {t a : Nat}

/-- The final zeros of a significand may be counted in the exponent. -/
theorem toRat_eq_of_significand_eq (hn : n.significand = t * 10 ^ a) {d : Nat} {e : Int}
    (he : e = n.exponent + (d + a : Nat) - 1) :
    n.toRat = signed n.negative (t * 10 ^ (e + 1 - d)) := by
  have hplaces : e + 1 - d = a + n.exponent := by omega
  rw [Numeral.toRat, hn, hplaces, zpow_add₀ (by norm_num), zpow_natCast]
  push_cast
  rw [mul_assoc]

/-- A numeral is written without the final zeros of its significand. -/
theorem numeralText_eq
    (hdigits : Nat.toDigits 10 n.significand = Nat.toDigits 10 t ++ List.replicate a '0')
    (hlast : t % 10 ≠ 0) {e : Int}
    (he : e = n.exponent + ((Nat.toDigits 10 t).length + a : Nat) - 1) :
    layout.numeralText n = (Sign.ofNegative n.negative).text ++
      layout.magnitudeText (Nat.toDigits 10 t) e := by
  unfold numeralText
  dsimp only
  rw [hdigits, dropZeros_toDigits hlast, List.length_append, List.length_replicate, ← he]
  simp only [Bool.and_eq_true, decide_eq_true_eq]
  unfold magnitudeText
  cases n.negative <;> rfl

/-- The text of a numeral is a spelling of it. -/
theorem exists_isPrinted_numeralText (layout : NumberLayout) (h : n.significand ≠ 0) :
    ∃ s : Spelling, s.text = layout.numeralText n ∧ s.value = n.toRat ∧
      s.sign.isNegative = n.negative ∧ s.IsPrinted layout := by
  obtain ⟨t, a, hn, hlast, hall⟩ := exists_toDigits_eq_append h
  obtain ⟨digits, hne, htext, hnumber⟩ := Digit.exists_text_eq_toDigits t
  have hlength : (Nat.toDigits 10 t).length = digits.length := by
    rw [← htext, Digit.text, List.length_map]
  obtain ⟨e, he⟩ : ∃ e, e = n.exponent + ((Nat.toDigits 10 t).length + a : Nat) - 1 := ⟨_, rfl⟩
  have hvalue := toRat_eq_of_significand_eq hn he
  have hbounds := ten_pow_le_mul_ten_pow (t := t) (by omega) e
  -- The place of the first digit decides the layout, and the size of the number decides the same.
  have hrange := between_iff layout.leastPositional layout.positionalBound hbounds.1 hbounds.2
  rw [numeralText_eq hall hlast he, ← htext]
  rw [hlength, ← hnumber] at hvalue hrange
  obtain ⟨m, x, hm, hmagnitude, hfront, hbehind, hscale, hplain⟩ :=
    exists_magnitude_magnitudeText layout hne e
  have hsame : (⟨.ofNegative n.negative, m, x⟩ : Spelling).value = n.toRat := by
    show signed _ (m.value * 10 ^ Scale.exponent x) = _
    rw [hmagnitude, Sign.isNegative_ofNegative, hvalue]
  have habs : |n.toRat| = Digit.number digits * 10 ^ (e + 1 - digits.length) := by
    rw [hvalue, abs_signed, abs_of_nonneg (by positivity)]
  refine ⟨⟨.ofNegative n.negative, m, x⟩, ?_, hsame, Sign.isNegative_ofNegative _,
    Sign.ofNegative_ne_plus _, hfront, hbehind, hscale, ?_⟩
  · rw [← hm]
    rfl
  · rw [hsame, ← abs_eq_zero, habs, hrange]
    exact hplain

end

end NumberLayout

theorem Spelling.ofText?_text_eq {s : Spelling} {x : Binary64} (h : s.numeral.toBinary64 = x)
    (hx : x.isFinite = true) : Binary64.ofText? s.text = some x := by
  unfold Binary64.ofText?
  rw [Numeral.ofText?_text, Option.bind_some, h, if_pos hx]

/-! ## 4. The text of a double -/

namespace Json

/-- Zero has no first digit that could stand at an exponent, so it is done apart. -/
theorem exists_isPrinted_zero (negative : Bool) :
    ∃ s : Spelling, s.text = numberLayout.text (.zero negative) ∧ s.IsPrinted numberLayout ∧
      s.numeral.toBinary64 = .zero negative ∧ s.numeral.IsShortest := by
  refine ⟨⟨.ofNegative negative,
    .whole (Digit.zeros 1) (List.cons_ne_nil _ _) (some (Digit.zeros 1)), none⟩, ?_, ?_, ?_, ?_⟩
  · cases negative <;> decide
  · refine ⟨Sign.ofNegative_ne_plus _, List.cons_ne_nil _ _, fun _ => List.cons_ne_nil _ _,
      by simp, ?_⟩
    refine iff_of_true rfl (Or.inl ?_)
    rw [← Spelling.toRat_numeral, Numeral.toRat_eq_zero_iff]
    exact (Digit.digitsValue_text _).trans (Digit.number_zeros 2)
  · cases negative <;> decide +kernel
  · apply Numeral.isShortest_of_significand_eq_zero
    exact (Digit.digitsValue_text _).trans (Digit.number_zeros 2)

/-- The text of a finite double is a spelling of the shortest numeral that reads back as it. -/
theorem exists_isPrinted_text {x : Binary64} (h : x.isFinite = true) :
    ∃ s : Spelling, s.text = numberLayout.text x ∧ s.IsPrinted numberLayout ∧
      s.numeral.toBinary64 = x ∧ s.numeral.IsShortest := by
  obtain ⟨negative, units, grid, rfl⟩ := Binary64.exists_finite_of_isFinite h
  by_cases hunits : units = 0
  · subst hunits
    exact exists_isPrinted_zero negative
  · have hback := Binary64.toBinary64_shortest negative grid hunits
    have hshort := Binary64.isShortest_shortest negative grid hunits
    obtain ⟨s, htext, hvalue, hsign, hprinted⟩ := numberLayout.exists_isPrinted_numeralText
      (Binary64.significand_ne_zero_of_toBinary64_eq hunits hback)
    rw [← s.toRat_numeral] at hvalue
    have hdouble : s.numeral.toBinary64 = .finite negative units grid := by
      -- The spelling and the shortest numeral stand for one number with one sign.
      rw [Numeral.toBinary64_eq_iff rfl] at hback ⊢
      rw [hvalue]
      exact ⟨hback.1, hback.2.trans hsign.symm⟩
    refine ⟨s, ?_, hprinted, hdouble, ?_⟩
    · rw [htext]
      unfold NumberLayout.text
      dsimp only
      rw [if_neg hunits]
    · exact Numeral.isShortest_congr hvalue.symm (hback.trans hdouble.symm) hshort

/-- **Printed numbers parse back.**  Whatever text a number has been read from, the text that JSON
shows for it, at every level of indentation, is read as the same number, a zero with the same sign.
That text is a number of the JSON grammar and has a point between digits or, outside of the range
from 10^-4 up to 10^16, an exponent with a sign and at least two digits.  No numeral that is read as
the same number has fewer significant digits, and of those with as many none is nearer. -/
theorem ofText?_render {t : Text} {x : Binary64} (h : Binary64.ofText? t = some x) (level : Nat) :
    Binary64.ofText? (render level (number x)) = some x ∧
      isNumber (render level (number x)) = true ∧
      ∃ s : Spelling, s.text = render level (number x) ∧ s.IsPrinted numberLayout ∧
        s.numeral.toBinary64 = x ∧ s.numeral.IsShortest := by
  have hx := Binary64.isFinite_of_ofText? h
  have htext : render level (number x) = numberLayout.text x := by rw [render]
  obtain ⟨s, hs, hprinted, hback, hshort⟩ := exists_isPrinted_text hx
  rw [htext]
  refine ⟨?_, isNumber_text hx, s, hs, hprinted, hback, hshort⟩
  rw [← hs]
  exact Spelling.ofText?_text_eq hback hx

/-- Tokens and what is printed for them: a zero with a sign, the smallest and the largest double,
either end of the range without exponents, and digits of another script. -/
theorem ofText?_render_extremes :
    [("-0e5", "-0.0"), ("+4.94E-324", "5e-324"),
      ("17976931348623157081e289", "1.7976931348623157e+308"),
      ("9999999999999998", "9999999999999998.0"), ("10000000000000000", "1e+16"),
      (".0001", "0.0001"), ("99e-6", "9.9e-05"), ("0.1000000000000000055", "0.1"),
      ("٣.50", "3.5")].Forall fun (token, printed) =>
        ∃ x, Binary64.ofText? token.toList = some x ∧ render 0 (number x) = printed.toList ∧
          Binary64.ofText? printed.toList = some x := by
  rw [List.forall_iff_forall_mem]
  intro p hp
  have hprinted : ((Binary64.ofText? p.1.toList).any fun x =>
      decide (render 0 (number x) = p.2.toList)) = true := by
    revert p
    decide +kernel
  obtain ⟨x, hread, hrender⟩ := (Option.any_eq_true _ _).1 hprinted
  have htext := of_decide_eq_true hrender
  refine ⟨x, hread, htext, ?_⟩
  rw [← htext]
  exact (ofText?_render hread 0).1

end Json
end Cascade
