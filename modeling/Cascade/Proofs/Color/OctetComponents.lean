import Cascade.Proofs.Color.Grammar
import Cascade.Proofs.Number.Shortest

/-!
# Octets as components

A component that stands for an integer from 0 to 255 has the channel of two hexadecimal digits that
count that integer: the number is a double itself, so reading it rounds nothing.
-/

namespace Cascade
open Text

/-! ## 1. Exact numbers -/

namespace Binary64

/-- What is a double itself is rounded to nothing else. -/
theorem isNearest_toRat_iff {x y : Binary64} (hy : y.isFinite = true) :
    IsNearest y.toRat x ↔ x.isFinite = true ∧ x.toRat = y.toRat := by
  constructor
  · intro h
    have hdistance := h.abs_sub_le y hy
    rw [sub_self, abs_zero, abs_nonpos_iff, sub_eq_zero] at hdistance
    exact ⟨h.isFinite, hdistance.symm⟩
  · rintro ⟨hx, hsame⟩
    rw [← hsame]
    exact isNearest_toRat hx

theorem toRat_ofNat {n : Nat} (h : n ≤ 2 ^ 53) :
    (ofNat n).isFinite = true ∧ (ofNat n).toRat = n := by
  rw [ofNat_eq h]
  refine ⟨rfl, ?_⟩
  show ((n * unitsPerOne : Nat) : ℚ) / unitsPerOne = n
  rw [Nat.cast_mul, mul_div_cancel_right₀ _ cast_unitsPerOne_pos.ne']

end Binary64

/-! ## 2. Written octets -/

/-- A decimal spelling of an octet, with blanks around it. -/
structure WrittenOctet where
  value : Nat
  value_le : value ≤ 255
  spelling : Spelling
  spells : spelling.value = value
  before : Text
  after : Text
  isBlank_before : isBlankText before = true
  isBlank_after : isBlankText after = true

namespace WrittenOctet

def text (o : WrittenOctet) : Text := o.before ++ (o.spelling.text ++ o.after)

def number (o : WrittenOctet) : Binary64 := o.spelling.numeral.toBinary64

theorem abs_value_lt (o : WrittenOctet) : |o.spelling.value| < Binary64.overflow := by
  have hbound : (255 : ℚ) < Binary64.overflow := by decide +kernel
  have hvalue : (o.value : ℚ) ≤ 255 := by exact_mod_cast o.value_le
  rw [o.spells, abs_of_nonneg (Nat.cast_nonneg _)]
  exact hvalue.trans_lt hbound

/-- Blanks, zeros, exponents and scripts make no difference to what is read. -/
theorem ofText?_text (o : WrittenOctet) : Binary64.ofText? (trim o.text) = some o.number := by
  have hread : Binary64.ofText? o.spelling.text = some o.number := by
    rw [Binary64.ofText?_text, if_pos o.abs_value_lt]
    rfl
  rw [text, trim_append_left o.isBlank_before, trim_append_right o.isBlank_after,
    Length.trim_number hread, hread]

def component (o : WrittenOctet) : Component := ⟨o.text, o.number, o.ofText?_text⟩

/-- The number of an octet is read without rounding. -/
theorem toRat_number (o : WrittenOctet) : o.number.toRat = o.value := by
  have hnearest := Binary64.isNearest_spelling o.abs_value_lt
  have hle : (255 : Nat) ≤ 2 ^ 53 := by decide
  obtain ⟨hfinite, hexact⟩ := Binary64.toRat_ofNat (o.value_le.trans hle)
  rw [o.spells, ← hexact, Binary64.isNearest_toRat_iff hfinite, hexact] at hnearest
  exact hnearest.2

theorem isNegative_number (o : WrittenOctet) :
    o.number.isNegative = o.spelling.sign.isNegative :=
  o.spelling.numeral.isNegative_toBinary64

theorem isChannel_divNat (o : WrittenOctet) :
    Rgba.IsChannel o.value o.spelling.sign.isNegative (o.number.divNat 255) := by
  have hchannel := Rgba.isChannel_divNat (o.component).isFinite
  show Rgba.IsChannel _ _ (o.component.value.divNat 255)
  rwa [← o.isNegative_number, ← o.toRat_number]

/-- Nothing but zero can be written with a minus sign. -/
theorem value_eq_zero_of_isNegative {o : WrittenOctet} (h : o.spelling.sign.isNegative = true) :
    o.value = 0 := by
  have hmagnitude : 0 ≤ o.spelling.magnitude.value * 10 ^ Scale.exponent o.spelling.scale := by
    unfold Magnitude.value
    positivity
  have hvalue := o.spells
  rw [Spelling.value, h] at hvalue
  have hle : (o.value : ℚ) ≤ 0 := hvalue.symm.le.trans (neg_nonpos.2 hmagnitude)
  exact Nat.le_zero.1 (by exact_mod_cast hle)

/-- The channel of a written octet is that of the octet, but for the sign of zero. -/
theorem same_divNat (o : WrittenOctet) :
    (o.number.divNat 255).same (Rgba.channelOfOctet o.value) = true ∧
      (o.number.divNat 255 = Rgba.channelOfOctet o.value ↔ o.spelling.sign ≠ .minus) := by
  have hchannel := o.isChannel_divNat
  have hoctet := Rgba.isChannel_channelOfOctet o.value_le
  have hminus : o.spelling.sign ≠ .minus ↔ o.spelling.sign.isNegative = false := by
    cases o.spelling.sign <;> decide
  rw [hminus]
  cases hsign : o.spelling.sign.isNegative with
  | false =>
    rw [hsign] at hchannel
    have heq := hchannel.eq hoctet
    refine ⟨?_, iff_of_true heq rfl⟩
    rw [heq]
    apply Binary64.same_self
    intro hnan
    have hfinite := hoctet.isNearest.isFinite
    rw [hnan] at hfinite
    cases hfinite
  -- Only zero is left, and its channel is a zero with the same sign.
  | true =>
    rw [hsign, value_eq_zero_of_isNegative hsign, Nat.cast_zero] at hchannel
    have hzero : Rgba.IsChannel 0 true (.zero true) := by
      refine ⟨?_, rfl⟩
      rw [zero_div, ← Binary64.toRat_zero true]
      exact Binary64.isNearest_toRat rfl
    rw [hchannel.eq hzero, value_eq_zero_of_isNegative hsign]
    decide +kernel

end WrittenOctet

/-! ## 3. Two ways to write a color -/

namespace Color

/-- **Components and hexadecimal digits agree.**  If three components stand for integers from 0 to
255, whatever their signs, zeros, exponents, scripts and the blanks around them, then the color is
the same as that of hexadecimal digits for these integers, of either case.  Its channels are even
the same doubles unless a zero is written with a minus sign. -/
theorem ofText?_call_same_ofHex? (provider : Provider) (r g b : WrittenOctet)
    {octets : List HexOctet} (h : octets.map HexOctet.value = [r.value, g.value, b.value]) :
    ∃ c c' : Rgba,
      ofText? provider ("rgb(".toList ++ r.text ++ ',' :: g.text ++ ',' :: b.text ++ [')']) =
        some (.rgba c) ∧
      Rgba.ofHex? ('#' :: HexOctet.text octets) = some c' ∧
      Rgba.ofHex? ('#' :: [r.value, g.value, b.value].flatMap (hexDigits 2)) = some c' ∧
      c.same c' = true ∧
      (c = c' ↔ ∀ o ∈ [r, g, b], o.spelling.sign ≠ .minus) := by
  have hcall := ofText?_text provider
    (.components r.component g.component b.component true [] rfl)
  have htext : ColorSpelling.text (.components r.component g.component b.component true [] rfl) =
      "rgb(".toList ++ r.text ++ ',' :: g.text ++ ',' :: b.text ++ [')'] := by
    show "rgb(".toList ++ ((r.text ++ ',' :: (g.text ++ ',' :: b.text)) ++ ([')'] ++ [])) = _
    simp
  have hle : ∀ n ∈ [r.value, g.value, b.value], n ≤ 255 := by
    simp [r.value_le, g.value_le, b.value_le]
  have hhex := Rgba.ofHex?_text octets (rfl : isBlankText [] = true)
  have hfull : Rgba.channelOfOctet 255 = .one :=
    (Rgba.channelOfOctet_eq_one_iff (le_refl 255)).2 rfl
  obtain ⟨hred, hred'⟩ := r.same_divNat
  obtain ⟨hgreen, hgreen'⟩ := g.same_divNat
  obtain ⟨hblue, hblue'⟩ := b.same_divNat
  rw [htext] at hcall
  rw [List.append_nil, h] at hhex
  refine ⟨_, .ofOctets r.value g.value b.value 255, hcall, hhex, Rgba.ofHex?_hexDigits hle, ?_, ?_⟩
  · have hone : Binary64.one.same Binary64.one = true := Binary64.same_one_iff.2 rfl
    unfold Rgba.same Rgba.ofParts Rgba.ofOctets WrittenOctet.component
    simp only [hred, hgreen, hblue, hfull, hone, Bool.and_self]
  · unfold Rgba.ofParts Rgba.ofOctets
    -- The opacity is full on both sides, so it is the three components that decide.
    rw [Rgba.mk.injEq, hfull]
    simp [← hred', ← hgreen', ← hblue', WrittenOctet.component]

/-- A leading zero, a final one, both signs, an exponent, a digit of another script and blanks. -/
theorem ofText?_call_same_ofHex?_mixed :
    ∃ c c' : Rgba,
      ofText? .deferred "rgb( +0255.0,\t-0 ,.٣e1\u00a0)".toList = some (.rgba c) ∧
      Rgba.ofHex? "#fF0003".toList = some c' ∧ c.same c' = true ∧ c ≠ c' := by
  let d (start value : Nat) (hstart : start ∈ digitZeros) (hvalue : value < 10) : Digit :=
    ⟨start, value, hstart, hvalue⟩
  let zero : Digit := d 0x30 0 (by decide) (by decide)
  let one : Digit := d 0x30 1 (by decide) (by decide)
  let two : Digit := d 0x30 2 (by decide) (by decide)
  let five : Digit := d 0x30 5 (by decide) (by decide)
  let three : Digit := d 0x0660 3 (by decide) (by decide)
  let r : WrittenOctet :=
    ⟨255, by decide, ⟨.plus, .whole [zero, two, five, five] (by simp) (some [zero]), none⟩,
      by decide +kernel, [' '], [], by decide, by decide⟩
  let g : WrittenOctet :=
    ⟨0, by decide, ⟨.minus, .whole [zero] (by simp) none, none⟩,
      by decide +kernel, ['\t'], [' '], by decide, by decide⟩
  let b : WrittenOctet :=
    ⟨3, by decide, ⟨.absent, .fraction [three] (by simp),
      some ⟨'e', .absent, [one], by decide, by simp⟩⟩,
      by decide +kernel, [], ['\u00a0'], by decide, by decide⟩
  let hex (value : Nat) (capital : Bool) (h : value < 16) : HexDigit := ⟨value, capital, h⟩
  let octets : List HexOctet :=
    [⟨hex 15 false (by decide), hex 15 true (by decide)⟩,
      ⟨hex 0 false (by decide), hex 0 false (by decide)⟩,
      ⟨hex 0 false (by decide), hex 3 false (by decide)⟩]
  have hvalues : octets.map HexOctet.value = [r.value, g.value, b.value] := rfl
  obtain ⟨c, c', hcall, hhex, -, hsame, hiff⟩ := ofText?_call_same_ofHex? .deferred r g b hvalues
  have htext : "rgb(".toList ++ r.text ++ ',' :: g.text ++ ',' :: b.text ++ [')'] =
      "rgb( +0255.0,\t-0 ,.٣e1\u00a0)".toList := by decide
  refine ⟨c, c', htext ▸ hcall, hhex, hsame, ?_⟩
  intro heq
  exact hiff.1 heq g (by simp) rfl

end Color
end Cascade
