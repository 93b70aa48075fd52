import Cascade.Proofs.Json.Document
import Cascade.Proofs.Number.Shortest
import Cascade.Proofs.Text.Runs

/-!
# Numbers as JSON writes them

No number that is written has a zero in front of the point unless that zero stands there alone.
-/

namespace Cascade

/-! ## 1. Digits of a number -/

theorem isDigit_of_mem_toDigits {c : Char} {n : Nat} (h : c ∈ Nat.toDigits 10 n) :
    c.isDigit = true :=
  Nat.isDigit_of_mem_toDigits (by decide) (by decide) h

/-- A number other than zero starts with another digit than zero. -/
theorem toDigits_eq_cons {n : Nat} (h : n ≠ 0) :
    ∃ c rest, Nat.toDigits 10 n = c :: rest ∧ c ≠ '0' := by
  induction n using Nat.strongRecOn with
  | _ n ih =>
    rw [Nat.toDigits_eq_if (by decide)]
    -- The first digit of a longer number is that of its tenth.
    by_cases hlt : n < 10
    · have hdigit : ∀ d : Fin 10, d.val ≠ 0 → Nat.digitChar d ≠ '0' := by decide
      rw [if_pos hlt]
      exact ⟨Nat.digitChar n, [], rfl, hdigit ⟨n, hlt⟩ h⟩
    · obtain ⟨c, rest, hc, hne⟩ := ih (n / 10) (by omega) (by omega)
      rw [if_neg hlt, hc]
      exact ⟨c, _, rfl, hne⟩

/-- Taking off the final zeros leaves the first digit, if that is not a zero. -/
theorem dropZeros_cons {c : Char} (h : c ≠ '0') (rest : Text) :
    ∃ rest', ((c :: rest).reverse.dropWhile (· = '0')).reverse = c :: rest' ∧
      ∀ d ∈ rest', d ∈ rest := by
  rw [List.reverse_cons, List.dropWhile_append]
  split
  · exact ⟨[], by simp [h], by simp⟩
  · refine ⟨(rest.reverse.dropWhile (· = '0')).reverse, by simp, ?_⟩
    intro d hd
    exact List.mem_reverse.1 ((List.dropWhile_sublist _).mem (List.mem_reverse.1 hd))

namespace Json

/-! ## 2. The grammar of numbers -/

theorem isDigits_iff {t : Text} : isDigits t = true ↔ t ≠ [] ∧ ∀ c ∈ t, c.isDigit = true := by
  simp [isDigits]

theorem isDigits_toDigits (n : Nat) : isDigits (Nat.toDigits 10 n) = true :=
  isDigits_iff.2 ⟨Nat.toDigits_ne_nil, fun _ => isDigit_of_mem_toDigits⟩

theorem isDigits_append {a b : Text} (ha : ∀ c ∈ a, c.isDigit = true) (hb : isDigits b = true) :
    isDigits (a ++ b) = true := by
  obtain ⟨hne, hall⟩ := isDigits_iff.1 hb
  apply isDigits_iff.2
  refine ⟨by simp [hne], ?_⟩
  intro c hc
  rcases List.mem_append.1 hc with hc | hc
  · exact ha c hc
  · exact hall c hc

/-- Where an exponent starts, the digits in front of it end. -/
theorem not_isDigit_of_isExponent {t : Text} (h : isExponent t = true) :
    ∀ c ∈ t.head?, c.isDigit = false := by
  cases t with
  | nil => simp
  | cons mark rest =>
    intro c hc
    cases hc
    have hmark : mark = 'e' ∨ mark = 'E' := by
      simp only [isExponent, Bool.and_eq_true, Bool.or_eq_true, decide_eq_true_eq] at h
      exact h.1
    rcases hmark with rfl | rfl <;> decide

theorem not_isDigit_of_isFraction {t : Text} (h : isFraction t = true) :
    ∀ c ∈ t.head?, c.isDigit = false := by
  unfold isFraction at h
  split at h
  · intro c hc
    cases hc
    decide
  · exact not_isDigit_of_isExponent h

theorem isFraction_point {digits rest : Text} (hdigits : isDigits digits = true)
    (hrest : isExponent rest = true) : isFraction ('.' :: (digits ++ rest)) = true := by
  have hall := (isDigits_iff.1 hdigits).2
  have hhead := not_isDigit_of_isExponent hrest
  show (isDigits ((digits ++ rest).takeWhile Char.isDigit) &&
    isExponent ((digits ++ rest).dropWhile Char.isDigit)) = true
  rw [Text.takeWhile_append_of_head hall hhead, Text.dropWhile_append_of_head hall hhead, hdigits,
    hrest]
  rfl

theorem isFraction_digits {digits : Text} (h : isDigits digits = true) :
    isFraction ('.' :: digits) = true := by
  have hnone : isExponent [] = true := rfl
  have hfraction := isFraction_point h hnone
  rwa [List.append_nil] at hfraction

theorem isFraction_of_isExponent {t : Text} (h : isExponent t = true) : isFraction t = true := by
  unfold isFraction
  split
  · simp [isExponent] at h
  · exact h

/-- Digits and a fraction are put together to a magnitude. -/
theorem isMagnitude_append (whole : Text) {rest : Text} (hwhole : isWhole whole = true)
    (hdigits : ∀ c ∈ whole, c.isDigit = true) (hrest : isFraction rest = true) :
    isMagnitude (whole ++ rest) = true := by
  have hhead := not_isDigit_of_isFraction hrest
  unfold isMagnitude
  rw [Text.takeWhile_append_of_head hdigits hhead, Text.dropWhile_append_of_head hdigits hhead,
    hwhole, hrest]
  rfl

theorem isWhole_toDigits (n : Nat) : isWhole (Nat.toDigits 10 n) = true := by
  by_cases h : n = 0
  · rw [h]
    rfl
  · obtain ⟨c, rest, hc, hne⟩ := toDigits_eq_cons h
    rw [hc]
    simp [isWhole, hne]

/-- A magnitude starts with a digit and not with a sign. -/
theorem isNumber_of_isMagnitude {t : Text} (h : isMagnitude t = true) :
    isNumber t = true ∧ isNumber ('-' :: t) = true := by
  refine ⟨?_, h⟩
  have hsign : dropSign ['-'] t = t := by
    cases t with
    | nil => rfl
    | cons c rest =>
      have hc : c ≠ '-' := by
        rintro rfl
        simp [isMagnitude, isWhole] at h
      simp [dropSign, hc]
  unfold isNumber
  rw [hsign, h]

theorem isNumber_toDigits (n : Nat) : isNumber (Nat.toDigits 10 n) = true := by
  have hnone : isFraction [] = true := rfl
  have h := isMagnitude_append _ (isWhole_toDigits n) (fun _ => isDigit_of_mem_toDigits) hnone
  rw [List.append_nil] at h
  exact (isNumber_of_isMagnitude h).1

/-! ## 3. Number characters -/

theorem isNumberChar_of_isDigit {c : Char} (h : c.isDigit = true) : isNumberChar c = true := by
  simp [isNumberChar, h]

theorem mem_dropSign (signs : List Char) {c : Char} {t : Text} (h : c ∈ t) :
    c ∈ signs ∨ c ∈ dropSign signs t := by
  cases t with
  | nil => cases h
  | cons d rest =>
    by_cases hd : d ∈ signs
    · rcases List.mem_cons.1 h with rfl | h
      · exact Or.inl hd
      · exact Or.inr (by simpa [dropSign, hd] using h)
    · exact Or.inr (by simpa [dropSign, hd] using h)

theorem isNumberChar_of_isExponent {t : Text} (h : isExponent t = true) :
    ∀ c ∈ t, isNumberChar c = true := by
  cases t with
  | nil => simp
  | cons mark rest =>
    simp only [isExponent, Bool.and_eq_true, Bool.or_eq_true, decide_eq_true_eq] at h
    obtain ⟨hmark, hdigits⟩ := h
    intro c hc
    rcases List.mem_cons.1 hc with rfl | hc
    · rcases hmark with rfl | rfl <;> decide
    · have hsigns : ∀ c ∈ ['+', '-'], isNumberChar c = true := List.all_eq_true.1 (by decide)
      rcases mem_dropSign ['+', '-'] hc with hc | hc
      · exact hsigns c hc
      · exact isNumberChar_of_isDigit ((isDigits_iff.1 hdigits).2 c hc)

theorem isNumberChar_of_mem_takeWhile {c : Char} {t : Text} (h : c ∈ t.takeWhile Char.isDigit) :
    isNumberChar c = true :=
  isNumberChar_of_isDigit (List.all_eq_true.1 List.all_takeWhile c h)

theorem isNumberChar_of_isFraction {t : Text} (h : isFraction t = true) :
    ∀ c ∈ t, isNumberChar c = true := by
  unfold isFraction at h
  split at h
  · rename_i rest
    rw [Bool.and_eq_true] at h
    intro c hc
    rcases List.mem_cons.1 hc with rfl | hc
    · decide
    · rw [← List.takeWhile_append_dropWhile (p := Char.isDigit) (l := rest)] at hc
      rcases List.mem_append.1 hc with hc | hc
      · exact isNumberChar_of_mem_takeWhile hc
      · exact isNumberChar_of_isExponent h.2 c hc
  · exact isNumberChar_of_isExponent h

/-- So the characters of a number are those that the reader takes for one. -/
theorem isNumberChar_of_isNumber {t : Text} (h : isNumber t = true) :
    ∀ c ∈ t, isNumberChar c = true := by
  unfold isNumber isMagnitude at h
  rw [Bool.and_eq_true] at h
  have hsign : ∀ c ∈ ['-'], isNumberChar c = true := List.all_eq_true.1 (by decide)
  intro c hc
  rcases mem_dropSign ['-'] hc with hc | hc
  · exact hsign c hc
  · rw [← List.takeWhile_append_dropWhile (p := Char.isDigit) (l := dropSign ['-'] t)] at hc
    rcases List.mem_append.1 hc with hc | hc
    · exact isNumberChar_of_mem_takeWhile hc
    · exact isNumberChar_of_isFraction h.2 c hc

/-! ## 4. The text of a number -/

theorem isDigit_of_mem_zeros {n : Nat} {c : Char} (h : c ∈ List.replicate n '0') :
    c.isDigit = true := by
  rw [List.eq_of_mem_replicate h]
  decide

/-- The zeros that fill up an exponent are digits. -/
theorem isExponent_exponentText (layout : NumberLayout) (e : Int) :
    isExponent (layout.exponentText e) = true := by
  have hdigits := isDigits_append
    (fun c => isDigit_of_mem_zeros (n := layout.exponentWidth - (Nat.toDigits 10 e.natAbs).length))
    (isDigits_toDigits e.natAbs)
  unfold NumberLayout.exponentText
  by_cases he : e < 0
  · simpa [isExponent, dropSign, he] using hdigits
  · simpa [isExponent, dropSign, he] using hdigits

section
variable {c : Char} {rest : Text} (hc : c ≠ '0') (hdigits : ∀ d ∈ c :: rest, d.isDigit = true)
include hc hdigits

/-- A point is always followed by a digit, if only by a zero. -/
theorem isMagnitude_positionalText (point : Int) :
    isMagnitude (NumberLayout.positionalText (c :: rest) point) = true := by
  unfold NumberLayout.positionalText
  split
  · have hfraction := isDigits_append (fun c => isDigit_of_mem_zeros (n := (-point).toNat))
      (isDigits_iff.2 ⟨List.cons_ne_nil c rest, hdigits⟩)
    have hzero : ∀ c ∈ ['0'], c.isDigit = true := List.all_eq_true.1 (by decide)
    exact isMagnitude_append ['0'] rfl hzero (isFraction_digits hfraction)
  -- Here the whole part takes a digit at least, and the first one is not a zero.
  · rename_i hpoint
    obtain ⟨k, hk⟩ : ∃ k, point.toNat = k + 1 := ⟨point.toNat - 1, by omega⟩
    have hfraction : isDigits (if ((c :: rest).drop point.toNat).isEmpty then ['0']
        else (c :: rest).drop point.toNat) = true := by
      split
      · decide
      · rename_i hne
        refine isDigits_iff.2 ⟨by simpa using hne, ?_⟩
        intro d hd
        exact hdigits d (List.mem_of_mem_drop hd)
    apply isMagnitude_append _ _ _ (isFraction_digits hfraction)
    · rw [hk]
      simp [isWhole, hc]
    · intro d hd
      rcases List.mem_append.1 hd with hd | hd
      · exact hdigits d (List.mem_of_mem_take hd)
      · exact isDigit_of_mem_zeros hd

/-- One digit stands in front of the point, and the point is left out where no other follows. -/
theorem isMagnitude_scientificText (layout : NumberLayout) (e : Int) :
    isMagnitude (layout.scientificText (c :: rest) e) = true := by
  have hexponent := isExponent_exponentText layout e
  have hwhole : isWhole [c] = true := by simp [isWhole, hc]
  have hfirst : ∀ d ∈ [c], d.isDigit = true := by
    intro d hd
    exact hdigits d (List.mem_singleton.1 hd ▸ List.mem_cons_self)
  cases rest with
  | nil => exact isMagnitude_append [c] hwhole hfirst (isFraction_of_isExponent hexponent)
  | cons second rest =>
    have hrest : isDigits (second :: rest) = true :=
      isDigits_iff.2 ⟨by simp, fun d hd => hdigits d (List.mem_cons_of_mem c hd)⟩
    exact isMagnitude_append [c] hwhole hfirst (isFraction_point hrest hexponent)

end

/-- The first digit survives the loss of the final zeros, and so it is still not a zero. -/
theorem isNumber_numeralText (layout : NumberLayout) {n : Numeral} (h : n.significand ≠ 0) :
    isNumber (layout.numeralText n) = true := by
  obtain ⟨c, rest, hall, hc⟩ := toDigits_eq_cons h
  obtain ⟨rest', hstripped, hrest'⟩ := dropZeros_cons hc rest
  have hdigits : ∀ d ∈ c :: rest', d.isDigit = true := by
    intro d hd
    apply isDigit_of_mem_toDigits (n := n.significand)
    rw [hall]
    rcases List.mem_cons.1 hd with rfl | hd
    · exact List.mem_cons_self
    · exact List.mem_cons_of_mem c (hrest' d hd)
  unfold NumberLayout.numeralText
  dsimp only
  rw [hall, hstripped]
  -- Which of the two layouts it is does not matter, so the exponent may be any number.
  generalize n.exponent + ((c :: rest).length : Int) - 1 = e
  have hmagnitude : isMagnitude
      (if (layout.leastPositional ≤ e && e < layout.positionalBound) = true then
        NumberLayout.positionalText (c :: rest') (e + 1)
      else layout.scientificText (c :: rest') e) = true := by
    split
    · exact isMagnitude_positionalText hc hdigits (e + 1)
    · exact isMagnitude_scientificText hc hdigits layout e
  cases n.negative with
  | false => exact (isNumber_of_isMagnitude hmagnitude).1
  | true => exact (isNumber_of_isMagnitude hmagnitude).2

/-- The text of every finite number is a number of the grammar. -/
theorem isNumber_text {x : Binary64} (h : x.isFinite = true) :
    isNumber (numberLayout.text x) = true := by
  cases x with
  | finite negative units grid =>
    unfold NumberLayout.text
    dsimp only
    by_cases hunits : units = 0
    · rw [if_pos hunits]
      cases negative <;> decide
    · rw [if_neg hunits]
      have hback := Binary64.toBinary64_shortest negative grid hunits
      exact isNumber_numeralText numberLayout
        (Binary64.significand_ne_zero_of_toBinary64_eq hunits hback)
  | infinite negative => cases h
  | nan => cases h

end Json
end Cascade
