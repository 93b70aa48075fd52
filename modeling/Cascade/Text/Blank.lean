import Cascade.Text.Basic

/-! The white space of Unicode together with the separators U+001C to U+001F, and trimming by it. -/

namespace Cascade.Text

def isBlank (c : Char) : Bool :=
  let n := c.toNat
  (0x09 ≤ n && n ≤ 0x0D) || (0x1C ≤ n && n ≤ 0x20) || n == 0x85 || n == 0xA0 || n == 0x1680 ||
    (0x2000 ≤ n && n ≤ 0x200A) || n == 0x2028 || n == 0x2029 || n == 0x202F || n == 0x205F ||
    n == 0x3000

def isBlankText (t : Text) : Bool := t.all isBlank

def trimStart (t : Text) : Text := t.dropWhile isBlank

def trimEnd (t : Text) : Text := (t.reverse.dropWhile isBlank).reverse

def trim (t : Text) : Text := trimEnd (trimStart t)

theorem trimStart_eq_nil_iff {t : Text} : trimStart t = [] ↔ isBlankText t = true := by
  induction t with
  | nil => simp [trimStart, isBlankText]
  | cons c rest ih =>
    simp only [trimStart, isBlankText, List.dropWhile_cons, List.all_cons] at ih ⊢
    cases hc : isBlank c with
    | true => simpa only [if_true, Bool.true_and] using ih
    | false => simp

theorem isBlankText_reverse (t : Text) : isBlankText t.reverse = isBlankText t := by
  simp [isBlankText]

theorem trimEnd_eq_nil_iff {t : Text} : trimEnd t = [] ↔ isBlankText t = true := by
  rw [trimEnd, List.reverse_eq_nil_iff]
  exact (trimStart_eq_nil_iff (t := t.reverse)).trans (by rw [isBlankText_reverse])

theorem isBlankText_of_isBlankText_trimStart {t : Text} (h : isBlankText (trimStart t) = true) :
    isBlankText t = true := by
  induction t with
  | nil => rfl
  | cons c rest ih =>
    -- A blank is dropped and the rest decides; any other character stays and is no blank.
    by_cases hc : isBlank c = true
    · simp only [trimStart, List.dropWhile_cons, hc, if_true] at h
      simp only [isBlankText, List.all_cons, hc, Bool.true_and]
      exact ih h
    · simp only [trimStart, List.dropWhile_cons, hc] at h
      simpa [isBlankText] using h

/-- A text trims to nothing exactly when it is blank throughout. -/
theorem trim_eq_nil_iff {t : Text} : trim t = [] ↔ isBlankText t = true := by
  rw [trim, trimEnd_eq_nil_iff]
  refine ⟨isBlankText_of_isBlankText_trimStart, fun h => ?_⟩
  rw [trimStart_eq_nil_iff.2 h]
  rfl

theorem trim_ne_nil_iff {t : Text} : trim t ≠ [] ↔ isBlankText t = false := by
  rw [Ne, trim_eq_nil_iff, Bool.not_eq_true]

end Cascade.Text
